import FirmwareAgent.DataService

/-!
# Package data in parts

A target that asks for the first part of the package data, and then for the next one as long as it is
given a handle, gets the parts in their order and each of them once.

* `plan_eq`: a request that is not refused is answered with the part at its start.
* `transfer_iff`: a whole transfer consists of the parts of the data.
* `reassembles_partsOf`: they make up the data.
-/

namespace FirmwareAgent

namespace PackageDataPart

/-! ## Parts -/

/-- How many parts of at most `maximum` bytes it takes to cover a length. -/
def partCount (length maximum : Nat) : Nat :=
  (length + maximum - 1) / maximum

/-- The part that starts at an offset. -/
def startingAt (length maximum start : Nat) : PackageDataPart :=
  let stop := min (start + maximum) length
  ⟨start, stop, TransferFlag.ofBounds (start == 0) (stop == length),
    if stop = length then 0 else UInt32.ofNat stop⟩

/-- The parts of a transfer, in their order. -/
def partsOf (length maximum : Nat) : List PackageDataPart :=
  (List.range (partCount length maximum)).map fun place =>
    startingAt length maximum (place * maximum)

/-- The parts that a target gets that starts with a request and goes on with the handle of each part
to the next one, until there is no handle. None of the requests is refused. -/
inductive Transfer (length : Nat) (maximum : UInt32) :
    GetPackageDataRequest → List PackageDataPart → Prop
  | last {request : GetPackageDataRequest} {part : PackageDataPart}
      (planned : plan length request maximum = .ok part) (ends : part.nextHandle = 0) :
      Transfer length maximum request [part]
  | more {request : GetPackageDataRequest} {part : PackageDataPart} {parts : List PackageDataPart}
      (planned : plan length request maximum = .ok part) (goes_on : part.nextHandle ≠ 0)
      (rest : Transfer length maximum ⟨part.nextHandle, .getNextPart⟩ parts) :
      Transfer length maximum request (part :: parts)

/-- A request asks for a next part that is not there: its handle is the mark of the end, or it is
not in the data. -/
def Lost (length : Nat) (request : GetPackageDataRequest) : Prop :=
  request.operation = .getNextPart ∧
    (request.dataTransferHandle.toNat = 0 ∨ length ≤ request.dataTransferHandle.toNat)

instance (length : Nat) (request : GetPackageDataRequest) : Decidable (Lost length request) :=
  inferInstanceAs (Decidable (_ ∧ _))

/-- The parts make up the data. -/
structure Reassembles (data : Array UInt8) (maximum : Nat) (parts : List PackageDataPart) :
    Prop where
  count : parts.length = partCount data.size maximum
  starts : ∀ part, parts[0]? = some part → part.start = 0
  contiguous : ∀ place part next, parts[place]? = some part → parts[place + 1]? = some next →
    next.start = part.stop
  sized : ∀ part ∈ parts, part.start < part.stop ∧ part.stop ≤ part.start + maximum
  whole : (parts.flatMap fun part => (data.extract part.start part.stop).toList) = data.toList
  flags : ∀ place part, parts[place]? = some part → part.transferFlag =
    if parts.length = 1 then .startAndEnd
    else if place = 0 then .start
    else if place + 1 = parts.length then .finish
    else .middle
  handles : ∀ place part, parts[place]? = some part →
    (part.nextHandle = 0 ↔ place + 1 = parts.length)

section

variable {length maximum : Nat}

theorem lt_partCount_iff {place : Nat} (positive : 0 < maximum) :
    place < partCount length maximum ↔ place * maximum < length := by
  have quotient := Nat.le_div_iff_mul_le positive (x := place + 1) (y := length + maximum - 1)
  rw [Nat.succ_mul] at quotient
  exact quotient.trans (by omega)

theorem partCount_pos (positive : 0 < maximum) (nonempty : 0 < length) :
    0 < partCount length maximum :=
  (lt_partCount_iff positive).mpr (by omega)

/-- The parts cover the length. -/
theorem le_partCount_mul (positive : 0 < maximum) : length ≤ partCount length maximum * maximum :=
  Nat.not_lt.mp fun beyond => Nat.lt_irrefl _ ((lt_partCount_iff positive).mpr beyond)

theorem getElem?_partsOf {place : Nat} {part : PackageDataPart} :
    (partsOf length maximum)[place]? = some part ↔
      place < partCount length maximum ∧ part = startingAt length maximum (place * maximum) := by
  rw [partsOf, List.getElem?_map, Option.map_eq_some_iff]
  constructor
  · rintro ⟨other, found, rfl⟩
    obtain ⟨within, rfl⟩ := List.getElem?_eq_some_iff.mp found
    simpa using within
  · rintro ⟨within, rfl⟩
    exact ⟨place, List.getElem?_range within, rfl⟩

/-- A part ends where the next one starts, or at the end of the data. -/
theorem stop_startingAt {place : Nat} (positive : 0 < maximum)
    (within : place < partCount length maximum) :
    place + 1 < partCount length maximum ∧
        (startingAt length maximum (place * maximum)).stop = (place + 1) * maximum ∧
        (place + 1) * maximum < length ∨
      place + 1 = partCount length maximum ∧
        (startingAt length maximum (place * maximum)).stop = length := by
  have next : place + 1 < partCount length maximum ↔ (place + 1) * maximum < length :=
    lt_partCount_iff positive
  have stop_eq : (startingAt length maximum (place * maximum)).stop =
      min ((place + 1) * maximum) length := by rw [startingAt, Nat.succ_mul]
  rw [stop_eq]
  by_cases more : place + 1 < partCount length maximum
  · have inside := next.mp more
    exact .inl ⟨more, Nat.min_eq_left (Nat.le_of_lt inside), inside⟩
  · have beyond := Nat.not_lt.mp (mt next.mpr more)
    exact .inr ⟨by omega, Nat.min_eq_right beyond⟩

end

/-! ## Requests -/

section

variable {length : Nat} {maximum : UInt32} {request : GetPackageDataRequest} {start : Nat}

theorem plan_empty : plan 0 request maximum =
    .error (refusal request CompletionCode.noPackageData) := rfl

theorem plan_lost (nonempty : 0 < length) (lost : Lost length request) :
    plan length request maximum =
      .error (refusal request CompletionCode.invalidTransferHandle) := by
  have refused : startOf length request =
      .error (refusal request CompletionCode.invalidTransferHandle) := by
    rw [startOf, lost.1]
    exact if_pos lost.2
  rw [plan, if_neg (Nat.ne_of_gt nonempty), refused]
  rfl

/-- Data within the reach of a handle: a request is refused for having no data or for its handle,
or it is answered with the part at its start. -/
theorem plan_eq (reach : length ≤ UInt32.size) (nonempty : 0 < length) :
    plan length request maximum =
      (startOf length request).map (startingAt length maximum.toNat) := by
  have some_data : length ≠ 0 := Nat.ne_of_gt nonempty
  unfold plan
  rw [if_neg some_data]
  cases startOf length request with
  | error refused => rfl
  | ok start =>
    by_cases last : min (start + maximum.toNat) length = length
    · simp [last, startingAt, Except.map, bind, Except.bind, pure, Except.pure]
    · have handle : min (start + maximum.toNat) length < UInt32.size := by omega
      simp [last, handle, startingAt, Except.map, bind, Except.bind, pure, Except.pure]

variable (maximum) in
theorem plan_firstPart (reach : length ≤ UInt32.size) (nonempty : 0 < length) (handle : UInt32) :
    plan length ⟨handle, .getFirstPart⟩ maximum = .ok (startingAt length maximum.toNat 0) :=
  plan_eq reach nonempty

variable (maximum) in
theorem plan_nextPart (reach : length ≤ UInt32.size) {handle : UInt32} (positive : handle ≠ 0)
    (inside : handle.toNat < length) :
    plan length ⟨handle, .getNextPart⟩ maximum =
      .ok (startingAt length maximum.toNat handle.toNat) := by
  have handle_pos : handle.toNat ≠ 0 := fun zero => positive (UInt32.toNat_inj.mp zero)
  rw [plan_eq reach (Nat.zero_lt_of_lt inside), startOf]
  exact congrArg (Except.map _) (if_neg (not_or.mpr ⟨handle_pos, Nat.not_le.mpr inside⟩))

/-- The only requests that are refused are those for a next part that is not there, and those for
data that is empty. -/
theorem refused_of_plan_eq_error {error : UpdateError} (reach : length ≤ UInt32.size)
    (refused : plan length request maximum = .error error) :
    length = 0 ∧ error = refusal request CompletionCode.noPackageData ∨
      0 < length ∧ Lost length request ∧
        error = refusal request CompletionCode.invalidTransferHandle := by
  rcases Nat.eq_zero_or_pos length with rfl | nonempty
  · exact .inl ⟨rfl, (Except.error.inj (plan_empty.symm.trans refused)).symm⟩
  · rw [plan_eq reach nonempty, startOf] at refused
    cases next : request.operation with
    | getFirstPart =>
      rw [next] at refused
      cases refused
    | getNextPart =>
      rw [next] at refused
      dsimp only at refused
      split at refused
      · rename_i lost
        exact .inr ⟨nonempty, ⟨next, lost⟩, (Except.error.inj refused).symm⟩
      · cases refused

/-! ## Transfers -/

/-- The handle of the next part is where it starts. -/
theorem nextHandle_startingAt {maximum place : Nat} (reach : length ≤ UInt32.size)
    (stop_eq : (startingAt length maximum (place * maximum)).stop = (place + 1) * maximum)
    (inside : (place + 1) * maximum < length) :
    (startingAt length maximum (place * maximum)).nextHandle.toNat = (place + 1) * maximum := by
  have handle_eq : (startingAt length maximum (place * maximum)).nextHandle =
      if (startingAt length maximum (place * maximum)).stop = length then 0
      else UInt32.ofNat (startingAt length maximum (place * maximum)).stop := rfl
  rw [handle_eq, stop_eq, if_neg (Nat.ne_of_lt inside)]
  exact UInt32.toNat_ofNat_of_lt' (Nat.lt_of_lt_of_le inside reach)

theorem nextHandle_ne_zero {maximum place : Nat} (reach : length ≤ UInt32.size)
    (positive : 0 < maximum)
    (stop_eq : (startingAt length maximum (place * maximum)).stop = (place + 1) * maximum)
    (inside : (place + 1) * maximum < length) :
    (startingAt length maximum (place * maximum)).nextHandle ≠ 0 := by
  have handle_eq := nextHandle_startingAt reach stop_eq inside
  intro zero
  rw [zero] at handle_eq
  exact absurd handle_eq (Nat.ne_of_lt (Nat.mul_pos (Nat.succ_pos place) positive))

/-- There is one way only for a transfer to go. -/
theorem Transfer.unique {parts parts' : List PackageDataPart}
    (transfer : Transfer length maximum request parts)
    (other : Transfer length maximum request parts') : parts' = parts := by
  induction transfer generalizing parts' with
  | last planned ends =>
    cases other with
    | last planned' => rw [Except.ok.inj (planned'.symm.trans planned)]
    | more planned' goes_on =>
      cases planned'.symm.trans planned
      exact absurd ends goes_on
  | more planned goes_on rest ih =>
    cases other with
    | last planned' ends =>
      cases planned'.symm.trans planned
      exact absurd ends goes_on
    | more planned' _ rest' =>
      cases planned'.symm.trans planned
      rw [ih rest']

/-- A transfer from the part at a place on. The induction is on how many parts are left. -/
theorem transfer_from (reach : length ≤ UInt32.size) (positive : 0 < maximum.toNat) (left : Nat)
    {place : Nat} (count : place + left + 1 = partCount length maximum.toNat)
    (planned : plan length request maximum =
      .ok (startingAt length maximum.toNat (place * maximum.toNat))) :
    Transfer length maximum request ((List.range' place (left + 1)).map fun place =>
      startingAt length maximum.toNat (place * maximum.toNat)) := by
  have at_place := stop_startingAt positive (show place < partCount length maximum.toNat by omega)
  induction left generalizing place request with
  | zero =>
    obtain ⟨_, _, _⟩ | ⟨_, stop_eq⟩ := at_place
    · omega
    · exact .last planned (if_pos stop_eq)
  | succ left ih =>
    obtain ⟨more, stop_eq, inside⟩ | ⟨_, _⟩ := at_place
    · have handle_eq := nextHandle_startingAt reach stop_eq inside
      have goes_on := nextHandle_ne_zero reach positive stop_eq inside
      have next := plan_nextPart maximum reach goes_on (handle_eq ▸ inside)
      rw [handle_eq] at next
      exact .more planned goes_on
        (ih (by omega) next (stop_startingAt positive (by omega)))
    · omega

/-- A transfer of data within the reach of a handle consists of the parts of the data. -/
theorem transfer_iff (reach : length ≤ UInt32.size) (nonempty : 0 < length) (positive : 0 < maximum)
    (handle : UInt32) (parts : List PackageDataPart) :
    Transfer length maximum ⟨handle, .getFirstPart⟩ parts ↔
      parts = partsOf length maximum.toNat := by
  have positive : 0 < maximum.toNat := positive
  have transfer : Transfer length maximum ⟨handle, .getFirstPart⟩
      (partsOf length maximum.toNat) := by
    obtain ⟨left, count⟩ := Nat.exists_eq_succ_of_ne_zero
      (Nat.ne_of_gt (partCount_pos positive nonempty))
    have first := plan_firstPart maximum reach nonempty handle
    rw [partsOf, List.range_eq_range', count]
    exact transfer_from reach positive left (by omega) (by rwa [Nat.zero_mul])
  constructor
  · exact transfer.unique
  · rintro rfl
    exact transfer

end

/-! ## The parts make up the data -/

section

variable {length maximum place : Nat}

theorem length_partsOf : (partsOf length maximum).length = partCount length maximum := by
  rw [partsOf, List.length_map, List.length_range]

/-- The bytes of the first parts are the first bytes of the data. -/
theorem flatMap_firstParts (data : Array UInt8) (maximum count : Nat) :
    ((List.range count).map fun place => startingAt data.size maximum (place * maximum)).flatMap
        (fun part => (data.extract part.start part.stop).toList) =
      data.toList.take (count * maximum) := by
  induction count with
  | zero => simp
  | succ count ih =>
    have last : (data.extract (count * maximum)
        (min (count * maximum + maximum) data.size)).toList =
          (data.toList.drop (count * maximum)).take maximum := by
      rw [Array.toList_extract, List.extract_eq_take_drop, List.take_eq_take_iff,
        List.length_drop, Array.length_toList]
      omega
    rw [List.range_succ, List.map_append, List.flatMap_append, ih, Nat.succ_mul, List.take_add]
    simpa [startingAt] using last

theorem flag_startingAt (positive : 0 < maximum) (within : place < partCount length maximum) :
    (startingAt length maximum (place * maximum)).transferFlag =
      if partCount length maximum = 1 then .startAndEnd
      else if place = 0 then .start
      else if place + 1 = partCount length maximum then .finish
      else .middle := by
  have flag_eq : (startingAt length maximum (place * maximum)).transferFlag =
      TransferFlag.ofBounds (place * maximum == 0)
        ((startingAt length maximum (place * maximum)).stop == length) := rfl
  rw [flag_eq]
  have first : (place * maximum == 0) = (place == 0) := by
    rw [Bool.eq_iff_iff, beq_iff_eq, beq_iff_eq, Nat.mul_eq_zero,
      or_iff_left (Nat.ne_of_gt positive)]
  obtain ⟨more, stop_eq, inside⟩ | ⟨last, stop_eq⟩ := stop_startingAt positive within
  · rw [if_neg (by omega), if_neg (Nat.ne_of_lt more), first, stop_eq,
      beq_false_of_ne (Nat.ne_of_lt inside)]
    by_cases zero : place = 0
    · rw [if_pos zero, zero]
      rfl
    · rw [if_neg zero, beq_false_of_ne zero]
      rfl
  · rw [if_pos last, first, stop_eq, beq_self_eq_true]
    by_cases zero : place = 0
    · rw [if_pos (by omega), zero]
      rfl
    · rw [if_neg (by omega), if_neg zero, beq_false_of_ne zero]
      rfl

theorem reassembles_partsOf {data : Array UInt8} (reach : data.size ≤ UInt32.size)
    (positive : 0 < maximum) :
    Reassembles data maximum (partsOf data.size maximum) where
  count := length_partsOf
  starts := by
    intro part first
    obtain ⟨_, rfl⟩ := getElem?_partsOf.mp first
    exact Nat.zero_mul maximum
  contiguous := by
    intro place part next found found_next
    obtain ⟨within, rfl⟩ := getElem?_partsOf.mp found
    obtain ⟨more, rfl⟩ := getElem?_partsOf.mp found_next
    obtain ⟨_, stop_eq, _⟩ | ⟨last, _⟩ := stop_startingAt positive within
    · exact stop_eq.symm
    · omega
  sized := by
    intro part mem
    obtain ⟨place, found⟩ := List.getElem?_of_mem mem
    obtain ⟨within, rfl⟩ := getElem?_partsOf.mp found
    have inside := (lt_partCount_iff positive).mp within
    change place * maximum < min (place * maximum + maximum) data.size ∧
      min (place * maximum + maximum) data.size ≤ place * maximum + maximum
    omega
  whole := by
    have covered : data.size ≤ partCount data.size maximum * maximum := le_partCount_mul positive
    rw [partsOf, flatMap_firstParts]
    exact List.take_of_length_le covered
  flags := by
    intro place part found
    obtain ⟨within, rfl⟩ := getElem?_partsOf.mp found
    rw [length_partsOf]
    exact flag_startingAt positive within
  handles := by
    intro place part found
    obtain ⟨within, rfl⟩ := getElem?_partsOf.mp found
    rw [length_partsOf]
    obtain ⟨more, stop_eq, inside⟩ | ⟨last, stop_eq⟩ := stop_startingAt positive within
    · exact iff_of_false (nextHandle_ne_zero reach positive stop_eq inside) (Nat.ne_of_lt more)
    · exact iff_of_true (if_pos stop_eq) last

end

end PackageDataPart

end FirmwareAgent
