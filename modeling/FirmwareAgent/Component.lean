import FirmwareAgent.Wire.Body
import FirmwareAgent.Error

/-!
# Components of a package and the devices they go to

The component table describes the images of a package. A device record names the components that
apply to one device by their place in that table. The classification index of a component is
reported by the targets and not part of the package, so the table keeps it apart, by classification
and identifier.
-/

namespace FirmwareAgent

/-- What a package says about one of its images. -/
structure ComponentImage where
  classification : UInt16
  identifier : UInt16
  comparisonStamp : UInt32
  /-- The package's option bits. -/
  options : UInt16
  requestedActivationMethod : UInt16
  /-- The size of the image in bytes. -/
  size : UInt32
  /-- Where the image starts in the package. -/
  packageOffset : UInt64
  version : String
  deriving DecidableEq, Repr

namespace ComponentImage

/-- What identifies the component to a target, given its classification index. -/
def identity (component : ComponentImage) (classificationIndex : UInt8) : ComponentIdentity :=
  ⟨component.classification, component.identifier, classificationIndex, component.comparisonStamp⟩

def updateOptionFlags (component : ComponentImage) : UInt32 :=
  FirmwareAgent.updateOptionFlags component.options

/-- The version as it travels. -/
def versionString (component : ComponentImage) : VersionString :=
  .ofText component.version

end ComponentImage

/-- The components of a package and the classification indices that are known. -/
structure ComponentTable where
  components : Array ComponentImage
  /-- Classification, identifier, index: the latest entry of a component counts. -/
  classificationIndices : List ((UInt16 × UInt16) × UInt8) := []

namespace ComponentTable

/-- The number of components. -/
def size (table : ComponentTable) : Nat :=
  table.components.size

/-- Whether the package has no components. -/
def isEmpty (table : ComponentTable) : Bool :=
  table.size == 0

def get? (table : ComponentTable) (index : ComponentIndex) : Option ComponentImage :=
  table.components[index.toNat]?

/-- Makes the classification index of a component known. -/
def setClassificationIndex (table : ComponentTable) (classification identifier : UInt16)
    (index : UInt8) : ComponentTable :=
  { table with
    classificationIndices := ((classification, identifier), index) :: table.classificationIndices }

def classificationIndex? (table : ComponentTable) (component : ComponentImage) : Option UInt8 :=
  table.classificationIndices.lookup (component.classification, component.identifier)

end ComponentTable

/-- What the agent knows about a device before it updates it. -/
structure DeviceRecord where
  endpoint : EndpointId
  /-- The components that apply to the device, in the order of their update. -/
  applicableComponents : Array ComponentIndex
  /-- Opaque data that the target may pull. -/
  packageData : Array UInt8 := #[]
  imageSetVersion : String
  deriving DecidableEq, Repr

namespace DeviceRecord

/-- The number of components that apply. -/
def componentCount (record : DeviceRecord) : Nat :=
  record.applicableComponents.size

end DeviceRecord

end FirmwareAgent
