import FirmwareAgent.Proofs.Session.ImageData

/-!
# Pulling an image from end to end

A target that pulls the whole image goes on where its last pull ended, with pulls that end in the
image or are no longer than the baseline. `Pulls` is such a series, of whatever lengths and as far
as it has come.

* `Conforms.ends_within` and `AnswersPull.eq_respond`: every pull of a series succeeds.
* `Pulls.goes_on`: a series that has not reached the end of the image has a next pull.
* `makesUp_of_pulls`: the bodies of its answers make up the image.
-/

namespace FirmwareAgent

namespace ImageTransfer

/-! ## Series of pulls -/

/-- A pull with which a target may go on once it has the image up to an offset. -/
structure Conforms (size baseline maximum : UInt32) (offset : Nat)
    (pull : RequestFirmwareDataRequest) : Prop where
  inside : offset < size.toNat
  starts : pull.offset.toNat = offset
  long : baseline ≤ pull.length
  short : pull.length ≤ maximum
  /-- It ends in the image, or it is no longer than the baseline. -/
  fits : pull.length.toNat ≤ max baseline.toNat (size.toNat - offset)

/-- A series of pulls from one offset on, and the offset that it has reached. -/
inductive Pulls (size baseline maximum : UInt32) :
    Nat → List RequestFirmwareDataRequest → Nat → Prop
  | nil {offset : Nat} : Pulls size baseline maximum offset [] offset
  | cons {offset reached : Nat} {pull : RequestFirmwareDataRequest}
      {pulls : List RequestFirmwareDataRequest}
      (conforms : Conforms size baseline maximum offset pull)
      (rest : Pulls size baseline maximum (offset + pull.length.toNat) pulls reached) :
      Pulls size baseline maximum offset (pull :: pulls) reached

/-- How many bytes of the image a pull asks for. What it asks for beyond them are zeros. -/
def share (size : UInt32) (pull : RequestFirmwareDataRequest) : Nat :=
  min pull.length.toNat (size.toNat - pull.offset.toNat)

/-- The bodies of the answers to a series of pulls make up an image, as far as the series has come
to its end. -/
structure MakesUp (component : ComponentImage) (bytes : Array UInt8) (baseline maximum : UInt32)
    (pulls : List RequestFirmwareDataRequest) (reached : Nat) (bodies : List Bytes) : Prop where
  /-- Without their zeros the bodies follow one another as the image does. -/
  contiguous : (List.zipWith (fun pull body => body.take (share component.size pull))
      pulls bodies).flatten = (component.image bytes).take reached
  whole : component.size.toNat ≤ reached →
    (List.zipWith (fun pull body => body.take (share component.size pull)) pulls bodies).flatten =
      component.image bytes
  /-- No body but the last has zeros behind its part of the image. -/
  unpadded : ∀ (place : Nat) (pull : RequestFirmwareDataRequest) (body : Bytes),
    pulls[place]? = some pull → bodies[place]? = some body → place + 1 < pulls.length →
      share component.size pull = pull.length.toNat ∧
        body = (component.image bytes).extract pull.offset.toNat
          (pull.offset.toNat + pull.length.toNat)
  /-- The last has fewer of them than the baseline. -/
  padded : ∀ (place : Nat) (pull : RequestFirmwareDataRequest) (body : Bytes),
    pulls[place]? = some pull → bodies[place]? = some body →
      ∃ zeros, zeros < baseline.toNat ∧ share component.size pull + zeros = pull.length.toNat ∧
        body = (component.image bytes).extract pull.offset.toNat
          (pull.offset.toNat + share component.size pull) ++ List.replicate zeros 0
  /-- The series is over after as many pulls of the baseline as cover the image. -/
  count : pulls.length ≤ (component.size.toNat + baseline.toNat - 1) / baseline.toNat
  /-- Before its end there is a pull to go on with. -/
  goes_on : reached < component.size.toNat →
    ∃ pull, Pulls component.size baseline maximum 0 (pulls ++ [pull])
      (reached + pull.length.toNat)

section

variable {size baseline maximum : UInt32} {offset reached : Nat} {pull : RequestFirmwareDataRequest}
  {pulls : List RequestFirmwareDataRequest}

theorem Conforms.ends_within (conforms : Conforms size baseline maximum offset pull) :
    offset + pull.length.toNat ≤ size.toNat + baseline.toNat := by
  have inside := conforms.inside
  have fits := conforms.fits
  omega

theorem Conforms.padding_lt (conforms : Conforms size baseline maximum offset pull)
    (least : 0 < baseline.toNat) : pull.length.toNat - share size pull < baseline.toNat := by
  have inside := conforms.inside
  have fits := conforms.fits
  rw [share, conforms.starts]
  omega

/-- There is a pull to go on with at every offset in the image, for one a pull of the baseline. -/
theorem exists_conforms (ordered : baseline ≤ maximum) (inside : offset < size.toNat) :
    ∃ pull, Conforms size baseline maximum offset pull := by
  have small : offset < UInt32.size := Nat.lt_trans inside size.toNat_lt
  refine ⟨⟨UInt32.ofNat offset, baseline⟩, inside, ?_, UInt32.le_refl _, ordered, ?_⟩
  · exact UInt32.toNat_ofNat_of_lt' small
  · exact Nat.le_max_left _ _

namespace Pulls

theorem le_reached (series : Pulls size baseline maximum offset pulls reached) :
    offset ≤ reached := by
  induction series with
  | nil => exact Nat.le_refl _
  | cons conforms rest ih => omega

/-- A series goes on with any pull that conforms to where it has come. -/
theorem concat (series : Pulls size baseline maximum offset pulls reached)
    (conforms : Conforms size baseline maximum reached pull) :
    Pulls size baseline maximum offset (pulls ++ [pull]) (reached + pull.length.toNat) := by
  induction series with
  | nil => exact .cons conforms .nil
  | cons first rest ih => exact .cons first (ih conforms)

theorem goes_on (series : Pulls size baseline maximum offset pulls reached)
    (ordered : baseline ≤ maximum) (more : reached < size.toNat) :
    ∃ pull, Pulls size baseline maximum offset (pulls ++ [pull])
      (reached + pull.length.toNat) := by
  obtain ⟨pull, conforms⟩ := exists_conforms ordered more
  exact ⟨pull, series.concat conforms⟩

/-- Each pull of a series conforms to an offset that the pulls before it have moved on by the
baseline at least. -/
theorem conforms_of_getElem? (series : Pulls size baseline maximum offset pulls reached)
    {place : Nat} (found : pulls[place]? = some pull) :
    ∃ start, offset + place * baseline.toNat ≤ start ∧
      Conforms size baseline maximum start pull := by
  induction series generalizing place with
  | nil => cases found
  | @cons offset reached first pulls conforms rest ih =>
    cases place with
    | zero =>
      obtain rfl : first = pull := Option.some.inj found
      exact ⟨offset, by omega, conforms⟩
    | succ place =>
      obtain ⟨start, after, later⟩ := ih found
      have long : baseline.toNat ≤ first.length.toNat := conforms.long
      exact ⟨start, by rw [Nat.succ_mul]; omega, later⟩

/-- A pull that another one follows ends in the image. -/
theorem ends_inside (series : Pulls size baseline maximum offset pulls reached) {place : Nat}
    (found : pulls[place]? = some pull) (followed : place + 1 < pulls.length) :
    pull.offset.toNat + pull.length.toNat < size.toNat := by
  induction series generalizing place with
  | nil => cases found
  | @cons offset reached first pulls conforms rest ih =>
    cases place with
    | zero =>
      obtain rfl : first = pull := Option.some.inj found
      cases rest with
      | nil => exact absurd followed (Nat.lt_irrefl _)
      | cons next _ => exact conforms.starts ▸ next.inside
    | succ place => exact ih found (Nat.lt_of_succ_lt_succ followed)

theorem length_le (series : Pulls size baseline maximum 0 pulls reached)
    (least : 0 < baseline.toNat) :
    pulls.length ≤ (size.toNat + baseline.toNat - 1) / baseline.toNat := by
  rcases Nat.eq_zero_or_pos pulls.length with none_asked | asked
  · rw [none_asked]
    exact Nat.zero_le _
  -- The last pull starts in the image, as far on as the pulls before it have come.
  obtain ⟨last, count⟩ := Nat.exists_eq_succ_of_ne_zero (Nat.ne_of_gt asked)
  have found : pulls[last]? = some pulls[last] := List.getElem?_eq_getElem _
  obtain ⟨start, after, conforms⟩ := series.conforms_of_getElem? found
  have inside := conforms.inside
  rw [count, Nat.le_div_iff_mul_le least, Nat.succ_mul]
  omega

end Pulls

end

/-! ## What the bodies make up -/

section

variable {component : ComponentImage} {bytes : Array UInt8} {baseline maximum : UInt32}
  {offset reached : Nat} {pull : RequestFirmwareDataRequest}
  {pulls : List RequestFirmwareDataRequest}

theorem length_image (within : component.packageEnd ≤ bytes.size) :
    (component.image bytes).length = component.size.toNat := by
  rw [ComponentImage.image, Array.length_toList, Array.size_extract]
  rw [ComponentImage.packageEnd] at within ⊢
  omega

/-- The chunk that a pull asks for is its part of the image and then zeros. -/
theorem chunk_eq (within : component.packageEnd ≤ bytes.size)
    (inside : pull.offset.toNat ≤ component.size.toNat) :
    component.chunk bytes pull.offset.toNat pull.length.toNat =
      (component.image bytes).extract pull.offset.toNat
          (pull.offset.toNat + share component.size pull) ++
        List.replicate (pull.length.toNat - share component.size pull) 0 := by
  have stop_eq : min (pull.offset.toNat + pull.length.toNat) component.size.toNat =
      pull.offset.toNat + share component.size pull := by
    rw [share]
    omega
  have found_length : ((component.image bytes).extract pull.offset.toNat
      (pull.offset.toNat + share component.size pull)).length = share component.size pull := by
    rw [List.extract_eq_take_drop, List.length_take, List.length_drop, length_image within, share]
    omega
  unfold ComponentImage.chunk
  dsimp only
  rw [stop_eq, found_length]

theorem take_chunk (within : component.packageEnd ≤ bytes.size)
    (inside : pull.offset.toNat ≤ component.size.toNat) :
    (component.chunk bytes pull.offset.toNat pull.length.toNat).take (share component.size pull) =
      ((component.image bytes).drop pull.offset.toNat).take pull.length.toNat := by
  have image_length := length_image within
  rw [chunk_eq within inside, List.extract_eq_take_drop, Nat.add_sub_cancel_left]
  have part_length : (((component.image bytes).drop pull.offset.toNat).take
      (share component.size pull)).length = share component.size pull := by
    rw [List.length_take, List.length_drop, image_length, share]
    omega
  rw [List.take_append_of_le_length (Nat.le_of_eq part_length.symm), List.take_take, Nat.min_self,
    List.take_eq_take_iff, List.length_drop, image_length, share]
  omega

/-- What a series pulls of the image is the image between its ends. -/
theorem flatten_chunks (within : component.packageEnd ≤ bytes.size)
    (series : Pulls component.size baseline maximum offset pulls reached) :
    (List.zipWith (fun pull body => body.take (share component.size pull)) pulls
        (pulls.map fun pull => component.chunk bytes pull.offset.toNat pull.length.toNat)).flatten =
      ((component.image bytes).drop offset).take (reached - offset) := by
  induction series with
  | nil => simp
  | @cons offset reached first pulls conforms rest ih =>
    have inside : first.offset.toNat ≤ component.size.toNat :=
      conforms.starts ▸ Nat.le_of_lt conforms.inside
    have ahead := rest.le_reached
    rw [List.map_cons, List.zipWith_cons_cons, List.flatten_cons, ih, take_chunk within inside,
      conforms.starts, ← List.drop_drop, ← List.take_add]
    congr 1
    omega

/-- The bodies of the answers to a series make up the image. -/
theorem makesUp_of_pulls (within : component.packageEnd ≤ bytes.size)
    (least : 0 < baseline.toNat) (ordered : baseline ≤ maximum)
    (series : Pulls component.size baseline maximum 0 pulls reached) :
    MakesUp component bytes baseline maximum pulls reached
      (pulls.map fun pull => component.chunk bytes pull.offset.toNat pull.length.toNat) := by
  have body_eq {place : Nat} {pull : RequestFirmwareDataRequest} {body : Bytes}
      (found : pulls[place]? = some pull)
      (answered : (pulls.map fun pull =>
        component.chunk bytes pull.offset.toNat pull.length.toNat)[place]? = some body) :
      body = component.chunk bytes pull.offset.toNat pull.length.toNat := by
    rw [List.getElem?_map, found] at answered
    exact (Option.some.inj answered).symm
  have contiguous := flatten_chunks within series
  rw [List.drop_zero, Nat.sub_zero] at contiguous
  refine ⟨contiguous, ?whole, ?unpadded, ?padded, series.length_le least, series.goes_on ordered⟩
  case whole =>
    intro complete
    rw [contiguous]
    exact List.take_of_length_le (length_image within ▸ complete)
  case unpadded =>
    intro place pull body found answered followed
    have ends := series.ends_inside found followed
    have all_found : share component.size pull = pull.length.toNat := by
      rw [share]
      omega
    refine ⟨all_found, ?_⟩
    rw [body_eq found answered, chunk_eq within (by omega), all_found, Nat.sub_self,
      List.replicate_zero, List.append_nil]
  case padded =>
    intro place pull body found answered
    obtain ⟨start, _, conforms⟩ := series.conforms_of_getElem? found
    have inside : pull.offset.toNat ≤ component.size.toNat :=
      conforms.starts ▸ Nat.le_of_lt conforms.inside
    have share_le : share component.size pull ≤ pull.length.toNat := Nat.min_le_left _ _
    refine ⟨_, conforms.padding_lt least, Nat.add_sub_of_le share_le, ?_⟩
    rw [body_eq found answered, chunk_eq within inside]

end

end ImageTransfer

/-! ## The answers -/

namespace AnswersPull

variable {config : UpdateConfig} {component : ComponentImage} {bytes : Array UInt8}
  {pull : RequestFirmwareDataRequest} {request : Request} {response : Response}

/-- A pull whose length is in bounds and that ends within the slack succeeds. -/
theorem eq_respond (answers : AnswersPull config component bytes pull request response)
    (long : config.baselineTransferSize ≤ pull.length)
    (short : pull.length ≤ config.maxTransferSize)
    (ends : pull.offset.toNat + pull.length.toNat ≤
      component.size.toNat + config.baselineTransferSize.toNat) :
    response = request.respond CompletionCode.success
      (component.chunk bytes pull.offset.toNat pull.length.toNat) := by
  have bounded : ¬ (pull.length < config.baselineTransferSize ∨
      config.maxTransferSize < pull.length) :=
    not_or.mpr ⟨UInt32.not_lt.mpr long, UInt32.not_lt.mpr short⟩
  have success := answers.succeeds.mpr ⟨bounded, Nat.not_lt.mpr ends⟩
  rw [answers.echoes, success, (answers.served success).1]

end AnswersPull

end FirmwareAgent
