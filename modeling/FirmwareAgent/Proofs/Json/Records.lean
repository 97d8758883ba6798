import FirmwareAgent.Json.Records
import FirmwareAgent.Proofs.Json.Read
import Mathlib.Data.Option.Basic

/-!
# Records as JSON and back

The records of the agent are written in one way and read in many. `Duration.Spelled` and
`UpdatePhase.Spelled` list the spellings of the two types that are no records; the spellings of a
record differ as `Json.Spellings` says. However a value was spelled, it is written as JSON from
which it is read again.

* `records_throughJson`: every record is read from what was written, except that the duration of a
  report is cut to milliseconds, and what was read once is no longer changed.
-/

namespace FirmwareAgent

/-! ## Durations -/

namespace Duration

/-- The duration in whole milliseconds, of which there are at most `2^64 - 1`. -/
def inMillis (duration : Duration) : Duration where
  nanos := nanosPerMilli * min (duration.nanos / nanosPerMilli) (UInt64.size - 1)
  bounded := by
    have few := Nat.min_le_right (duration.nanos / nanosPerMilli) (UInt64.size - 1)
    simp only [nanosPerMilli, nanosPerSecond, UInt64.size] at few ⊢
    omega

/-- The spellings of a duration. Nanoseconds count on top of the seconds, however many they are. -/
inductive Spelled : Json → Duration → Prop
  | keyed {fields : List (String × Json)} {seconds : UInt64} {nanos : UInt32}
      {duration : Duration} :
      (∀ field ∈ fields, field.1 ∈ keys) → fields.lookup "secs" = some (.ofNat seconds.toNat) →
      fields.lookup "nanos" = some (.ofNat nanos.toNat) →
      duration.nanos = nanosPerSecond * seconds.toNat + nanos.toNat →
      Spelled (.object fields) duration
  | listed {seconds : UInt64} {nanos : UInt32} {duration : Duration} :
      duration.nanos = nanosPerSecond * seconds.toNat + nanos.toNat →
      Spelled (.array [.ofNat seconds.toNat, .ofNat nanos.toNat]) duration

theorem ofParts?_eq_some {seconds : UInt64} {nanos : UInt32} {duration : Duration} :
    ofParts? seconds nanos = some duration ↔
      duration.nanos = nanosPerSecond * seconds.toNat + nanos.toNat := by
  obtain ⟨total, bounded⟩ := duration
  simp only [ofParts?, ofNanos?]
  constructor
  · intro read
    split at read <;> cases read
    rfl
  · rintro rfl
    rw [dif_pos bounded]

/-- What a duration is read from, in either form. -/
theorem ofJson?_iff_slots {json : Json} {duration : Duration} :
    ofJson? json = some duration ↔ json.hasOnly keys = true ∧
      ∃ (seconds : UInt64) (nanos : UInt32),
        json.slots keys keys.length =
          some [some (.ofNat seconds.toNat), some (.ofNat nanos.toNat)] ∧
        duration.nanos = nanosPerSecond * seconds.toNat + nanos.toNat := by
  constructor
  · intro read
    simp only [ofJson?, Option.bind_eq_bind, Option.bind_eq_some_iff, Option.guard_eq_some'] at read
    obtain ⟨_, only, _, found, read⟩ := read
    split at read
    case h_1 =>
      simp only [Json.required, Option.bind_eq_some_iff, Json.uint64?_eq_some,
        Json.uint32?_eq_some, ofParts?_eq_some] at read
      obtain ⟨seconds, ⟨_, rfl, rfl⟩, nanos, ⟨_, rfl, rfl⟩, total⟩ := read
      exact ⟨only, seconds, nanos, found, total⟩
    case h_2 => cases read
  · rintro ⟨only, seconds, nanos, found, total⟩
    simp [ofJson?, guard, only, found, ofParts?_eq_some.mpr total]

theorem ofJson?_eq_some {json : Json} {duration : Duration} :
    ofJson? json = some duration ↔ Spelled json duration := by
  rw [ofJson?_iff_slots]
  constructor
  · rintro ⟨only, seconds, nanos, found, total⟩
    cases json with
    | object fields =>
      have known : ∀ field ∈ fields, field.1 ∈ keys := by simpa [Json.hasOnly] using only
      obtain ⟨seconds_found, nanos_found⟩ : fields.lookup "secs" = some (.ofNat seconds.toNat) ∧
          fields.lookup "nanos" = some (.ofNat nanos.toNat) := by
        simpa [Json.slots, keys] using found
      exact .keyed known seconds_found nanos_found total
    | array elements =>
      obtain ⟨_, elements_eq⟩ := Json.slots_array_eq_some.mp found
      obtain rfl : elements = [.ofNat seconds.toNat, .ofNat nanos.toNat] :=
        (List.map_inj_right fun _ _ => Option.some.inj).mp elements_eq.symm
      exact .listed total
    | _ => cases found
  · rintro (⟨known, seconds_found, nanos_found, total⟩ | total)
    · refine ⟨by simpa [Json.hasOnly] using known, _, _, ?_, total⟩
      simp [Json.slots, keys, seconds_found, nanos_found]
    · exact ⟨rfl, _, _, rfl, total⟩

theorem spelled_toJson (duration : Duration) : Spelled duration.toJson duration := by
  have seconds_eq : (UInt64.ofNat duration.seconds).toNat = duration.seconds :=
    UInt64.toNat_ofNat_of_lt' duration.bounded
  have nanos_eq : (UInt32.ofNat duration.subsecondNanos).toNat = duration.subsecondNanos := by
    apply UInt32.toNat_ofNat_of_lt'
    simp only [subsecondNanos, nanosPerSecond, UInt32.size]
    omega
  have total : duration.nanos = nanosPerSecond * (UInt64.ofNat duration.seconds).toNat +
      (UInt32.ofNat duration.subsecondNanos).toNat := by
    rw [seconds_eq, nanos_eq]
    exact (Nat.div_add_mod _ _).symm
  refine .keyed (by simp [keys]) ?_ ?_ total
  · rw [seconds_eq]
    rfl
  · rw [nanos_eq]
    rfl

@[simp] theorem ofJson?_toJson (duration : Duration) : ofJson? duration.toJson = some duration :=
  ofJson?_eq_some.mpr duration.spelled_toJson

end Duration

/-! ## Phases -/

namespace UpdatePhase

/-- The names of the phases without details. -/
def names : List (String × UpdatePhase) :=
  [("Started", started), ("Completed", completed), ("Failed", failed)]

/-- The spellings of a phase. -/
inductive Spelled : Json → UpdatePhase → Prop
  | named {name : String} {phase : UpdatePhase} : (name, phase) ∈ names → Spelled (.text name) phase
  | tagged {name : String} {phase : UpdatePhase} :
      (name, phase) ∈ names → Spelled (.object [(name, .null)]) phase
  | applied {details : List (String × Json)} {index : ComponentIndex} {success : Bool} :
      details.lookup "component_index" = some (.ofNat index.toNat) →
      details.lookup "success" = some (.bool success) →
      Spelled (.object [("ComponentApplied", .object details)]) (.componentApplied index success)

theorem ofName?_eq_some {name : String} {phase : UpdatePhase} :
    ofName? name = some phase ↔ (name, phase) ∈ names := by
  constructor
  · intro read
    unfold ofName? at read
    split at read <;> cases read <;> simp [names]
  · intro listed
    simp only [names, List.mem_cons, Prod.mk.injEq, List.not_mem_nil, or_false] at listed
    obtain ⟨rfl, rfl⟩ | ⟨rfl, rfl⟩ | ⟨rfl, rfl⟩ := listed <;> rfl

theorem ofJson?_eq_some {json : Json} {phase : UpdatePhase} :
    ofJson? json = some phase ↔ Spelled json phase := by
  constructor
  · intro read
    unfold ofJson? at read
    split at read
    · exact .named (ofName?_eq_some.mp read)
    · simp only [Json.slots, componentKeys, List.map_cons, List.map_nil, Json.required,
        Option.bind_eq_bind, Option.bind_some, Option.bind_eq_some_iff, Json.uint64?_eq_some,
        Json.bool?_eq_some, Option.pure_def, Option.some.injEq] at read
      obtain ⟨index, ⟨_, index_found, rfl⟩, success, ⟨_, success_found, rfl⟩, rfl⟩ := read
      exact .applied index_found success_found
    · exact .tagged (ofName?_eq_some.mp read)
    · cases read
  · rintro (listed | listed | ⟨index, success⟩)
    · exact ofName?_eq_some.mpr listed
    · simp only [names, List.mem_cons, Prod.mk.injEq, List.not_mem_nil, or_false] at listed
      obtain ⟨rfl, rfl⟩ | ⟨rfl, rfl⟩ | ⟨rfl, rfl⟩ := listed <;> rfl
    · simp [ofJson?, Json.slots, componentKeys, index, success]

theorem spelled_toJson (phase : UpdatePhase) : Spelled phase.toJson phase := by
  cases phase with
  | started => exact .named (by simp [names])
  | componentApplied index success => exact .applied rfl rfl
  | completed => exact .named (by simp [names])
  | failed => exact .named (by simp [names])

@[simp] theorem ofJson?_toJson (phase : UpdatePhase) : ofJson? phase.toJson = some phase :=
  ofJson?_eq_some.mpr phase.spelled_toJson

end UpdatePhase

/-! ## Configurations, components and device records -/

namespace UpdateConfig

@[simp] theorem ofJson?_toJson (config : UpdateConfig) : ofJson? config.toJson = some config := by
  simp [ofJson?, toJson, Json.slots, keys, List.lookup_cons]

/-- What counts where a key is left out. -/
def defaults : List (String × Json) :=
  [ ("max_transfer_size", .ofNat 4096),
    ("baseline_transfer_size", .ofNat 32),
    ("max_outstanding_transfer_requests", .ofNat 1),
    ("instance_id_expiry", .object [("secs", .ofNat 5), ("nanos", .ofNat 0)]),
    ("command_timeout", .object [("secs", .ofNat 5), ("nanos", .ofNat 0)]),
    ("component_outcome_timeout", .object [("secs", .ofNat 60), ("nanos", .ofNat 0)]),
    ("cancel_on_failure", .bool true) ]

theorem spellings : Json.Spellings keys 0 defaults ofJson? := by
  refine .of_slots (by decide) (fun _ => rfl) (fun entry listed fields absent => ?_)
    fun key listed required => absurd listed required
  have size : Json.uint32? (.ofNat 4096) = some 4096 := rfl
  have baseline : Json.uint32? (.ofNat 32) = some FirmwareAgent.baselineTransferSize := rfl
  have outstanding : Json.uint8? (.ofNat 1) = some minOutstandingTransferRequests := rfl
  have short : Duration.ofJson? (.object [("secs", .ofNat 5), ("nanos", .ofNat 0)]) =
      some (.ofSeconds 5) := rfl
  have long : Duration.ofJson? (.object [("secs", .ofNat 60), ("nanos", .ofNat 0)]) =
      some (.ofSeconds 60) := rfl
  simp only [defaults, List.mem_cons, List.not_mem_nil, or_false] at listed
  obtain rfl | rfl | rfl | rfl | rfl | rfl | rfl := listed <;>
    simp [ofJson?, Json.slots, keys, List.lookup_cons, absent, size, baseline, outstanding, short,
      long]

end UpdateConfig

namespace ComponentImage

@[simp] theorem ofJson?_toJson (component : ComponentImage) :
    ofJson? component.toJson = some component := by
  simp [ofJson?, toJson, Json.slots, keys, List.lookup_cons]

theorem spellings : Json.Spellings keys keys.length [] ofJson? := by
  refine .of_slots (by decide) (fun _ => rfl) nofun ?_
  intro key listed _ fields absent
  simp only [keys, List.mem_cons, List.not_mem_nil, or_false] at listed
  obtain rfl | rfl | rfl | rfl | rfl | rfl | rfl | rfl := listed <;>
    simp [ofJson?, Json.slots, keys, absent]

end ComponentImage

namespace DeviceRecord

@[simp] theorem ofJson?_toJson (record : DeviceRecord) : ofJson? record.toJson = some record := by
  simp [ofJson?, toJson, Json.slots, keys, List.lookup_cons]

theorem spellings : Json.Spellings keys keys.length [("package_data", .array [])] ofJson? := by
  refine .of_slots (by decide) (fun _ => rfl) ?leftOut ?missing
  case leftOut =>
    intro entry listed fields absent
    have data : Json.list? Json.uint8? (.array []) = some [] := rfl
    obtain rfl := List.mem_singleton.mp listed
    simp [ofJson?, Json.slots, keys, List.lookup_cons, absent, data]
  case missing =>
    intro key listed required fields absent
    simp only [keys, List.mem_cons, List.not_mem_nil, or_false] at listed
    obtain rfl | rfl | rfl | rfl := listed
    case inr.inr.inl => exact absurd List.mem_cons_self required
    all_goals simp [ofJson?, Json.slots, keys, absent]

end DeviceRecord

/-! ## Progress and reports -/

namespace UpdateProgress

/-- The counts of an event have 64 bits. -/
def CountsFit (progress : UpdateProgress) : Prop :=
  progress.componentsDone < UInt64.size ∧ progress.componentsTotal < UInt64.size

theorem ofJson?_toJson {progress : UpdateProgress} (fit : progress.CountsFit) :
    ofJson? progress.toJson = some progress := by
  have done := Json.count?_eq_some.mpr ⟨rfl, fit.1⟩
  have total := Json.count?_eq_some.mpr ⟨rfl, fit.2⟩
  simp [ofJson?, toJson, Json.slots, keys, List.lookup_cons, done, total]

theorem countsFit_of_ofJson? {json : Json} {progress : UpdateProgress}
    (read : ofJson? json = some progress) : progress.CountsFit := by
  simp only [ofJson?, Option.bind_eq_bind, Option.bind_eq_some_iff] at read
  obtain ⟨_, _, read⟩ := read
  split at read
  case h_1 =>
    simp only [Option.bind_eq_some_iff, Json.required, Json.count?_eq_some, Option.pure_def,
      Option.some.injEq] at read
    obtain ⟨_, _, _, _, done, ⟨_, _, _, done_fits⟩, total, ⟨_, _, _, total_fits⟩, read⟩ := read
    obtain ⟨_, _, _, _, rfl⟩ := read
    exact ⟨done_fits, total_fits⟩
  case h_2 => cases read

theorem spellings : Json.Spellings keys keys.length [] ofJson? := by
  refine .of_slots (by decide) (fun _ => rfl) nofun ?_
  intro key listed _ fields absent
  simp only [keys, List.mem_cons, List.not_mem_nil, or_false] at listed
  obtain rfl | rfl | rfl | rfl | rfl | rfl := listed <;> simp [ofJson?, Json.slots, keys, absent]

end UpdateProgress

namespace ComponentOutcome

@[simp] theorem ofJson?_toJson (outcome : ComponentOutcome) :
    ofJson? outcome.toJson = some outcome := by
  simp [ofJson?, toJson, Json.slots, keys, List.lookup_cons]

theorem spellings : Json.Spellings keys keys.length [] ofJson? := by
  refine .of_slots (by decide) (fun _ => rfl) nofun ?_
  intro key listed _ fields absent
  simp only [keys, List.mem_cons, List.not_mem_nil, or_false] at listed
  obtain rfl | rfl := listed <;> simp [ofJson?, Json.slots, keys, absent]

end ComponentOutcome

namespace Duration

theorem toNat_ofNat_millis (duration : Duration) :
    (UInt64.ofNat duration.millis).toNat = duration.millis :=
  UInt64.toNat_ofNat_of_lt' (Nat.lt_of_le_of_lt (Nat.min_le_right _ _) (by decide))

theorem ofMillis_millis (duration : Duration) :
    ofMillis (.ofNat duration.millis) = duration.inMillis := by
  simp only [ofMillis, inMillis, toNat_ofNat_millis]
  rfl

/-- Whole milliseconds stay as they are. -/
theorem inMillis_ofMillis (millis : UInt64) : (ofMillis millis).inMillis = ofMillis millis := by
  have few : millis.toNat ≤ UInt64.size - 1 := Nat.le_sub_one_of_lt millis.toNat_lt
  have whole : nanosPerMilli * millis.toNat / nanosPerMilli = millis.toNat :=
    Nat.mul_div_cancel_left _ (by decide)
  simp only [ofMillis, inMillis, whole, Nat.min_eq_left few]

end Duration

namespace DeviceUpdateReport

/-- The report with its duration in whole milliseconds. -/
def inMillis (report : DeviceUpdateReport) : DeviceUpdateReport :=
  { report with duration := report.duration.inMillis }

@[simp] theorem ofJson?_toJson (report : DeviceUpdateReport) :
    ofJson? report.toJson = some report.inMillis := by
  have millis : Json.uint64? (.ofNat report.duration.millis) =
      some (.ofNat report.duration.millis) :=
    Json.uint64?_eq_some.mpr (congrArg Json.ofNat report.duration.toNat_ofNat_millis.symm)
  cases error : report.error <;>
    simp [ofJson?, toJson, Json.slots, keys, List.lookup_cons, millis, Duration.ofMillis_millis, error,
      Json.nullable?, inMillis]

theorem inMillis_of_ofJson? {json : Json} {report : DeviceUpdateReport}
    (read : ofJson? json = some report) : report.inMillis = report := by
  simp only [ofJson?, Option.bind_eq_bind, Option.bind_eq_some_iff] at read
  obtain ⟨_, _, read⟩ := read
  split at read
  case h_1 =>
    simp only [Option.bind_eq_some_iff, Option.pure_def, Option.some.injEq] at read
    obtain ⟨_, _, _, _, _, _, millis, _, _, _, rfl⟩ := read
    simp only [inMillis, Duration.inMillis_ofMillis]
  case h_2 => cases read

theorem spellings : Json.Spellings keys keys.length [("error", .null)] ofJson? := by
  refine .of_slots (by decide) (fun _ => rfl) ?leftOut ?missing
  case leftOut =>
    intro entry listed fields absent
    have error : Json.nullable? Json.text? .null = some none := rfl
    obtain rfl := List.mem_singleton.mp listed
    simp [ofJson?, Json.slots, keys, List.lookup_cons, absent, error]
  case missing =>
    intro key listed required fields absent
    simp only [keys, List.mem_cons, List.not_mem_nil, or_false] at listed
    obtain rfl | rfl | rfl | rfl | rfl := listed
    case inr.inr.inr.inr => exact absurd List.mem_cons_self required
    all_goals simp [ofJson?, Json.slots, keys, absent]

end DeviceUpdateReport

/-! ## Both directions -/

/-- Every record is read again from what was written. Of a report the duration is cut to whole
milliseconds, nothing else is lost. However a record was spelled, it is the same record with the
same JSON from then on. -/
theorem records_throughJson :
    Json.RoundTrip UpdateConfig.toJson UpdateConfig.ofJson? (fun _ => True) id ∧
    Json.RoundTrip DeviceRecord.toJson DeviceRecord.ofJson? (fun _ => True) id ∧
    Json.RoundTrip ComponentImage.toJson ComponentImage.ofJson? (fun _ => True) id ∧
    Json.RoundTrip UpdateProgress.toJson UpdateProgress.ofJson? UpdateProgress.CountsFit id ∧
    Json.RoundTrip DeviceUpdateReport.toJson DeviceUpdateReport.ofJson? (fun _ => True)
      DeviceUpdateReport.inMillis ∧
    Json.Spellings UpdateConfig.keys 0 UpdateConfig.defaults UpdateConfig.ofJson? ∧
    Json.Spellings DeviceRecord.keys 4 [("package_data", .array [])] DeviceRecord.ofJson? ∧
    Json.Spellings ComponentImage.keys 8 [] ComponentImage.ofJson? ∧
    Json.Spellings UpdateProgress.keys 6 [] UpdateProgress.ofJson? ∧
    Json.Spellings ComponentOutcome.keys 2 [] ComponentOutcome.ofJson? ∧
    Json.Spellings DeviceUpdateReport.keys 5 [("error", .null)] DeviceUpdateReport.ofJson? ∧
    (∀ json duration, Duration.ofJson? json = some duration ↔ Duration.Spelled json duration) ∧
    (∀ json phase, UpdatePhase.ofJson? json = some phase ↔ UpdatePhase.Spelled json phase) := by
  refine ⟨.lossless UpdateConfig.ofJson?_toJson, .lossless DeviceRecord.ofJson?_toJson,
    .lossless ComponentImage.ofJson?_toJson, .of_accepted ?_ ?_, .of_accepted ?_ ?_,
    UpdateConfig.spellings, DeviceRecord.spellings, ComponentImage.spellings,
    UpdateProgress.spellings, ComponentOutcome.spellings, DeviceUpdateReport.spellings,
    fun _ _ => Duration.ofJson?_eq_some, fun _ _ => UpdatePhase.ofJson?_eq_some⟩
  · exact fun progress => UpdateProgress.ofJson?_toJson
  · exact fun _ _ read => ⟨UpdateProgress.countsFit_of_ofJson? read, rfl⟩
  · exact fun report _ => report.ofJson?_toJson
  · exact fun _ _ read => ⟨trivial, DeviceUpdateReport.inMillis_of_ofJson? read⟩

/-- A timeout given as an array, with more than a second of nanoseconds, beside an unknown key. -/
theorem records_throughJson_carried :
    UpdateConfig.ofJson? (.object [("comment", .null),
        ("command_timeout", .array [.ofNat 1, .ofNat 2500000000])]) =
      some { commandTimeout := ⟨3500000000, by decide⟩ } ∧
    ∃ again, UpdateConfig.ofJson?
        (UpdateConfig.toJson { commandTimeout := ⟨3500000000, by decide⟩ }) = some again ∧
      again = { commandTimeout := ⟨3500000000, by decide⟩ } ∧
      again.toJson = UpdateConfig.toJson { commandTimeout := ⟨3500000000, by decide⟩ } := by
  have read : UpdateConfig.ofJson? (.object [("comment", .null),
      ("command_timeout", .array [.ofNat 1, .ofNat 2500000000])]) =
    some { commandTimeout := ⟨3500000000, by decide⟩ } := rfl
  exact ⟨read, records_throughJson.1.settled _ _ read⟩

end FirmwareAgent
