import Readership.Proofs.Server.Cell

/-!
# Values read back from their JSON

What a literal means for a field is printed as JSON and may come back as a literal of the
same field. The JSON of a value is one of the cells that write it
(`FieldValue.cell_toJson`), so it means that value again, unless the value is an instant
whose year has a sign: such a text is no timestamp, and the literal is refused.

The JSON still tells the values of a field apart, whatever their years
(`Field.toJson_inj`). It does not tell values of different kinds apart: the text of an
instant may be the value of a text field.
-/

namespace Readership

open Calendar (HasFourDigits)

namespace FieldValue

/-- **A value with a plain year**: it is no instant, or one whose year has four digits. -/
def HasPlainYear (v : FieldValue) : Prop :=
  ∀ t, v = .instant t → HasFourDigits t.date.year

theorem hasPlainYear_instant {t : Instant} :
    (instant t).HasPlainYear ↔ HasFourDigits t.date.year := by
  constructor
  · exact fun h => h t rfl
  · rintro h u ⟨⟩
    exact h

/-- **The JSON of a value writes it.** -/
theorem cell_toJson {v : FieldValue} (h : v.HasPlainYear) : v.Cell v.toJson := by
  cases v with
  | null => exact .null
  | int n => exact .number n
  | text s => exact .text s
  | instant t => exact .withOffset (Calendar.withOffset_offsetText (hasPlainYear_instant.mp h))

end FieldValue

namespace Field

variable {f : Field} {j : Json} {v w : FieldValue}

/-- The integers of literals fit a word. -/
theorem fitsSigned_of_integerLiteral? {n : Int} (h : integerLiteral? j = some n) :
    Numeral.fitsSigned n = true := by
  cases j with
  | num number =>
    cases number with
    | int m =>
      obtain ⟨hfits, ⟨⟩⟩ := Option.ite_none_right_eq_some.mp h
      exact hfits
    | float x => cases h
  | str s =>
    obtain ⟨m, -, hread⟩ := Option.bind_eq_some_iff.mp h
    obtain ⟨hfits, ⟨⟩⟩ := Option.ite_none_right_eq_some.mp hread
    exact hfits
  | _ => cases h

/-- **What a literal means is a key of its field**, also as a key of a row. -/
theorem typed_of_coerce (h : f.coerce j = .ok v) : f.Typed v := by
  refine ⟨admits_of_coerce h, ?_⟩
  rintro n rfl
  unfold coerce at h
  split at h
  · cases h
  · split at h
    next hread =>
      cases h
      exact fitsSigned_of_integerLiteral? hread
    next => cases h
  · split at h <;> cases h
  · split at h <;> cases h

/-- **A signed year is refused** when the value comes back. -/
theorem coerce_toJson_of_signed (hv : f.Typed v) (hyear : ¬ v.HasPlainYear) :
    f.coerce v.toJson = .error (.mismatch f.path (.notAnInstant v.toJson)) := by
  simp only [FieldValue.HasPlainYear, not_forall] at hyear
  obtain ⟨t, rfl, hsigned⟩ := hyear
  have hkind : f.kind = .timestamp := hv.kind_eq rfl
  have hread := Calendar.instant?_offsetText_of_signed (hv.admits.proper rfl) hsigned
  simp [coerce, FieldValue.toJson, hkind, instantLiteral?, hread]

/-- **The JSON of a value of a field tells which one it is.** -/
theorem toJson_inj (hv : f.Typed v) (hw : f.Typed w) (h : v.toJson = w.toJson) : v = w := by
  -- a text and an instant may print alike, but no field has both
  have hkind {a b : FieldKind} (ha : v.kind? = some a) (hb : w.kind? = some b) : a = b :=
    (hv.kind_eq ha).symm.trans (hw.kind_eq hb)
  cases v with
  | null => cases w <;> first | rfl | cases h
  | int n =>
    cases w with
    | int m =>
      cases h
      rfl
    | _ => cases h
  | text s =>
    cases w with
    | text t =>
      cases h
      rfl
    | instant t => cases hkind rfl rfl
    | _ => cases h
  | instant t =>
    cases w with
    | text s => cases hkind rfl rfl
    | instant u =>
      have htexts : t.offsetText = u.offsetText := Json.str.inj h
      rw [Calendar.offsetText_inj (hv.admits.proper rfl) (hw.admits.proper rfl) htexts]
    | _ => cases h

/-- **Values come back from their JSON.** What a literal means for a field means itself
again when it is printed, and is refused if it is an instant whose year has not four
digits. Two literals mean the same for a field exactly if their meanings print alike. -/
theorem coercion_idempotent (hv : f.coerce j = .ok v) :
    (v.HasPlainYear → f.coerce v.toJson = .ok v) ∧
      (¬ v.HasPlainYear →
        f.coerce v.toJson = .error (.mismatch f.path (.notAnInstant v.toJson))) ∧
      ∀ k w, f.coerce k = .ok w → (v.toJson = w.toJson ↔ v = w) := by
  have htyped := typed_of_coerce hv
  refine ⟨fun hyear => ?_, fun hyear => ?_, fun k w hw => ⟨fun h => ?_, fun h => ?_⟩⟩
  · exact coerce_of_cell htyped (FieldValue.cell_toJson hyear)
  · exact coerce_toJson_of_signed htyped hyear
  · exact toJson_inj htyped (typed_of_coerce hw) h
  · rw [h]

/-- A leap second, given by a clock that is ahead of UTC, and the second before it. -/
theorem coercion_idempotent_leapSecond :
    ∃ v w, viewedAt.coerce (.str " 2017-01-01T01:29:60.25+01:30 ") = .ok v ∧
      viewedAt.coerce (.str "2016-12-31 23:59:59.250") = .ok w ∧
      v.toJson = .str "2016-12-31T23:59:60.250+00:00" ∧ viewedAt.coerce v.toJson = .ok v ∧
      v.toJson ≠ w.toJson := by
  obtain ⟨t, u, ht, hu, hyear, hleap, hplain⟩ : ∃ t u : Instant,
      viewedAt.coerce (.str " 2017-01-01T01:29:60.25+01:30 ") = .ok (.instant t) ∧
        viewedAt.coerce (.str "2016-12-31 23:59:59.250") = .ok (.instant u) ∧
        t.date.year = 2016 ∧ t.nano = 1250000000 ∧ u.nano = 250000000 :=
    ⟨_, _, rfl, rfl, rfl, rfl, rfl⟩
  obtain ⟨hback, -, hprinted⟩ := coercion_idempotent ht
  have hplainYear : (FieldValue.instant t).HasPlainYear :=
    FieldValue.hasPlainYear_instant.mpr (by rw [hyear]; exact ⟨by decide, by decide⟩)
  refine ⟨_, _, ht, hu, ?_, hback hplainYear, fun h => ?_⟩
  · cases ht
    rfl
  · rw [FieldValue.instant.inj ((hprinted _ _ hu).mp h), hplain] at hleap
    exact absurd hleap (by decide)

end Field

end Readership
