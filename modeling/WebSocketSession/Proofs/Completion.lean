import WebSocketSession.Proofs.TextReading

/-!
# What bytes can still become

Bytes either are the start of a text (`Completable`), or no further bytes can make them one. Whole
characters in front do not matter for that (`completable_append`), and what is carried over from
one chunk to the next can always be completed (`Carriable.completable`), so that what has been
decoded before it is the longest text there is so far (`Carriable.longestText`).
-/

set_option autoImplicit false
set_option relaxedAutoImplicit false

namespace WebSocketSession.Utf8

/-- The bytes are those of a text. -/
def IsText (bytes : Bytes) : Prop := ∃ text, encode text = bytes

/-- Further bytes, if any are needed, make the bytes those of a text. -/
def Completable (bytes : Bytes) : Prop := ∃ more, IsText (bytes ++ more)

/-- The longest text that the bytes begin with. -/
structure LongestText (part bytes : Bytes) : Prop where
  isText : IsText part
  begins : part <+: bytes
  longest : ∀ other, IsText other → other <+: bytes → other <+: part

private theorem encode_append (first second : String) :
    encode (first ++ second) = encode first ++ encode second := by
  simp [encode]

theorem isText_nil : IsText [] := ⟨"", rfl⟩

theorem IsText.append {first second : Bytes} (begins : IsText first) (ends : IsText second) :
    IsText (first ++ second) := by
  obtain ⟨text, rfl⟩ := begins
  obtain ⟨more, rfl⟩ := ends
  exact ⟨text ++ more, encode_append text more⟩

private theorem Decoding.feedAll_encode_append (text : String) (bytes : Bytes) :
    (resume []).feedAll (encode text ++ bytes) =
      ((resume []).feedAll bytes).map fun d => ⟨d.latest ++ text.toList.reverse, d.carried⟩ := by
  rw [feedAll_append, encode, resume, feedAll_encode, Option.bind_some, List.append_nil]
  exact feedAll_latest text.toList.reverse [] bytes

private theorem isText_iff_feedAll {bytes : Bytes} :
    IsText bytes ↔ ∃ latest, (Decoding.resume []).feedAll bytes = some ⟨latest, []⟩ := by
  constructor
  · rintro ⟨text, rfl⟩
    exact ⟨_, Decoding.feedAll_encode [] text.toList⟩
  · rintro ⟨latest, fed⟩
    have accounted := Decoding.encode_feedAll fed
    exact ⟨Decoding.text ⟨latest, []⟩, (List.append_nil _).symm.trans accounted⟩

theorem isText_append {part bytes : Bytes} (whole : IsText part) :
    IsText (part ++ bytes) ↔ IsText bytes := by
  obtain ⟨text, rfl⟩ := whole
  constructor
  · intro all
    obtain ⟨latest, fed⟩ := isText_iff_feedAll.mp all
    rw [Decoding.feedAll_encode_append] at fed
    obtain ⟨d, rest, same⟩ := Option.map_eq_some_iff.mp fed
    have carried : d.carried = [] := congrArg Decoding.carried same
    refine isText_iff_feedAll.mpr ⟨d.latest, ?_⟩
    rw [rest, ← carried]
  · exact fun rest => .append ⟨text, rfl⟩ rest

theorem completable_append {part bytes : Bytes} (whole : IsText part) :
    Completable (part ++ bytes) ↔ Completable bytes := by
  simp only [Completable, List.append_assoc, isText_append whole]

theorem Completable.of_append {bytes more : Bytes} (completable : Completable (bytes ++ more)) :
    Completable bytes := by
  obtain ⟨others, text⟩ := completable
  exact ⟨more ++ others, by rwa [← List.append_assoc]⟩

private theorem exists_secondAllowed (lead : UInt8) :
    ∃ second, secondAllowed lead second = true := by
  by_cases long : lead.toNat = 0xE0
  · exact ⟨0xA0, secondAllowed_iff.mpr (by simp [long])⟩
  · by_cases high : lead.toNat = 0xF0
    · exact ⟨0x90, secondAllowed_iff.mpr (by simp [high])⟩
    · exact ⟨0x80, secondAllowed_iff.mpr (by simp [long, high])⟩

private theorem completable_of_unfinished {bytes : Bytes}
    (unfinished : classify bytes = .unfinished) :
    Completable bytes := by
  have tail : within 0x80 0xBF 0x80 = true := by decide
  suffices ∃ more latest, Decoding.feedAll ⟨[], []⟩ (bytes ++ more) = some ⟨latest, []⟩ by
    obtain ⟨more, latest, fed⟩ := this
    exact ⟨more, isText_iff_feedAll.mpr ⟨latest, fed⟩⟩
  unfold classify at unfinished
  split at unfinished
  · rename_i a
    obtain ⟨second, allowed⟩ := exists_secondAllowed a
    have lead := lengthFrom_cases a
    split at unfinished
    · cases unfinished
    · cases unfinished
    · rename_i none one
      rcases lead with lead | lead | lead | lead | lead
      · exact absurd lead.2 one
      · exact ⟨[second], _, Decoding.feedAll_two lead.2.2 allowed⟩
      · exact ⟨[second, 0x80], _, Decoding.feedAll_three lead.2.2 allowed tail⟩
      · exact ⟨[second, 0x80, 0x80], _, Decoding.feedAll_four lead.2.2 allowed tail tail⟩
      · exact absurd lead.2.2 none
  · rename_i a second
    have lead := lengthFrom_cases a
    split at unfinished
    · cases unfinished
    · rename_i allowed
      simp only [Bool.or_eq_true, decide_eq_true_eq, Bool.not_eq_true', not_or,
        Bool.not_eq_false] at allowed
      split at unfinished
      · cases unfinished
      · by_cases three : lengthFrom a = 3
        · exact ⟨[0x80], _, Decoding.feedAll_three three allowed.2 tail⟩
        · exact ⟨[0x80, 0x80], _, Decoding.feedAll_four (by omega) allowed.2 tail tail⟩
  · rename_i a second third
    have lead := lengthFrom_cases a
    split at unfinished
    · cases unfinished
    · rename_i allowed
      simp only [Bool.or_eq_true, decide_eq_true_eq, Bool.not_eq_true', not_or,
        Bool.not_eq_false] at allowed
      split at unfinished
      · cases unfinished
      · exact ⟨[0x80], _, Decoding.feedAll_four (by omega) allowed.1.2 allowed.2 tail⟩
  · split at unfinished <;> cases unfinished
  · cases unfinished

namespace Carriable

variable {carried : Bytes}

private theorem classify (carriable : Carriable carried) (some : carried ≠ []) :
    classify carried = .unfinished := by
  rcases List.eq_nil_or_concat carried with none | ⟨before, b, rfl⟩
  · exact absurd none some
  · rw [List.concat_eq_append] at carriable ⊢
    rw [Carriable, Decoding.feedAll_append] at carriable
    obtain ⟨d, -, last⟩ := Option.bind_eq_some_iff.mp carriable
    rw [Decoding.feedAll, List.foldlM_cons] at last
    obtain ⟨later, fed, same⟩ := Option.bind_eq_some_iff.mp last
    cases same
    unfold Decoding.feed at fed
    split at fed
    · -- A whole character would have been read.
      cases congrArg Decoding.latest (Option.some.inj fed)
    · rename_i unfinished
      have same : d.carried ++ [b] = before ++ [b] :=
        congrArg Decoding.carried (Option.some.inj fed)
      rw [← same, unfinished]
    · cases fed

theorem completable (carriable : Carriable carried) : Completable carried := by
  by_cases none : carried = []
  · rw [none]
    exact ⟨[], isText_nil⟩
  · exact completable_of_unfinished (carriable.classify none)

theorem isText_iff (carriable : Carriable carried) : IsText carried ↔ carried = [] := by
  rw [isText_iff_feedAll, carriable]
  simp [Decoding.resume]

theorem eq_nil_of_isText {part tail : Bytes} (carriable : Carriable (part ++ tail))
    (whole : IsText part) : part = [] := by
  obtain ⟨text, rfl⟩ := whole
  rw [Carriable, Decoding.feedAll_encode_append] at carriable
  obtain ⟨d, -, same⟩ := Option.map_eq_some_iff.mp carriable
  have nothing : d.latest ++ text.toList.reverse = [] := congrArg Decoding.latest same
  have none : text = "" := by simpa using (List.append_eq_nil_iff.mp nothing).2
  rw [none]
  rfl

theorem longestText (carriable : Carriable carried) {part : Bytes} (whole : IsText part) :
    LongestText part (part ++ carried) := by
  refine ⟨whole, List.prefix_append part carried, ?_⟩
  intro other isText begins
  rcases List.prefix_or_prefix_of_prefix begins (List.prefix_append part carried) with
    shorter | ⟨more, longer⟩
  · exact shorter
  · -- What is longer begins with characters that are carried over.
    obtain ⟨rest, split⟩ := begins
    rw [← longer, List.append_assoc, List.append_cancel_left_eq] at split
    rw [← longer, isText_append whole] at isText
    rw [← split] at carriable
    have nothing : more = [] := carriable.eq_nil_of_isText isText
    rw [nothing, List.append_nil] at longer
    exact longer ▸ List.prefix_refl part

end Carriable

theorem eq_empty_of_encode {text : String} (none : encode text = []) : text = "" :=
  Option.some.inj ((decode_eq_some_iff.mpr none).symm.trans rfl)

theorem IsText.completable {bytes : Bytes} (isText : IsText bytes) : Completable bytes :=
  ⟨[], by rwa [List.append_nil]⟩

theorem LongestText.eq {bytes part other : Bytes} (first : LongestText part bytes)
    (second : LongestText other bytes) : part = other :=
  (second.longest part first.isText first.begins).eq_of_length_le
    (first.longest other second.isText second.begins).length_le

theorem not_completable_of_malformed {bytes : Bytes}
    (malformed : (Decoding.resume []).feedAll bytes = none) : ¬ Completable bytes := by
  rintro ⟨more, text, same⟩
  exact not_text_of_malformed malformed more text same

end WebSocketSession.Utf8
