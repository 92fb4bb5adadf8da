import Readership.Metric.Selector
import Readership.Proofs.Number.Numeral
import Readership.Proofs.Text.Reader
import Readership.Report.Metrics

/-!
# Comma-separated values read back

A reader of RFC 4180 knows two kinds of fields. One between double quotes goes on to the
first quote that is not doubled; any other goes on to a comma or to the end of its line,
which is a line feed or a carriage return and a line feed. A carriage return alone is a
character like any other, so a writer that quotes fields with commas, quotes and line feeds
need not quote one with a carriage return, as long as no line feed follows it
(`Separated.Follows`). Behind a field in the middle of a record there is a comma, and the
last field of a row is a number.

So a report comes back field by field (`Metric.separatedText_reads_back`), whatever its
labels are.
-/

namespace Readership

open Text (Reader StartsWithout readAll?)

namespace Report.Separated

/-! ## The reader -/

/-- The rest of a field between quotes, and what follows its last quote. -/
def quotedRest : List Char → Option (List Char × List Char)
  | [] => none
  | '"' :: '"' :: rest => (quotedRest rest).map fun (cs, rest) => ('"' :: cs, rest)
  | '"' :: rest => some ([], rest)
  | c :: rest => (quotedRest rest).map fun (cs, rest) => (c :: cs, rest)

/-- A field without quotes, and what follows it. -/
def bareField : List Char → List Char × List Char
  | [] => ([], [])
  | '\r' :: '\n' :: rest => ([], '\r' :: '\n' :: rest)
  | c :: rest =>
    if c = ',' ∨ c = '"' ∨ c = '\n' then ([], c :: rest)
    else (c :: (bareField rest).1, (bareField rest).2)

/-- **A field off the front of a text.** -/
def readField : Reader (List Char)
  | '"' :: rest => quotedRest rest
  | cs => some (bareField cs)

/-- The end of a line, or of the text. -/
def recordEnd : Reader Unit
  | [] => some ((), [])
  | '\n' :: rest => some ((), rest)
  | '\r' :: '\n' :: rest => some ((), rest)
  | _ => none

/-- **A record off the front of a text**: fields with commas between them. -/
def readRecord (cs : List Char) : Option (List (List Char) × List Char) := do
  let (cell, rest) ← readField cs
  match rest with
  | ',' :: rest =>
    if rest.length < cs.length then do
      let (cells, rest) ← readRecord rest
      pure (cell :: cells, rest)
    else none
  | rest => do
    let (_, rest) ← recordEnd rest
    pure ([cell], rest)
termination_by cs.length

/-- **The records of a text.** -/
def read? (s : String) : Option (List (List String)) :=
  (readAll? readRecord s.toList).map fun rs => rs.map fun r => r.map String.ofList

example : read? "a,\"b\"\"c\"\r\nd\re,\n" = some [["a", "b\"c"], ["d\re", ""]] := by
  decide +kernel

/-! ## Fields -/

variable {cs rest : List Char} {r : List (List Char)}

/-- **What may stand behind a field**: a comma, or a line feed that does not make the end of
a line together with the last character of the field. -/
inductive Follows (cs : List Char) : List Char → Prop where
  | comma (rest : List Char) : Follows cs (',' :: rest)
  | lineFeed (rest : List Char) : cs.getLast? ≠ some '\r' → Follows cs ('\n' :: rest)

/-- **A doubled quote is one quote**, and a single one ends the field. -/
theorem quotedRest_append (cs : List Char) (hrest : StartsWithout (· == '"') rest) :
    quotedRest (cs.flatMap escapeChar ++ '"' :: rest) = some (cs, rest) := by
  induction cs with
  | nil =>
    rw [List.flatMap_nil, List.nil_append, quotedRest]
    rintro _ rfl
    cases hrest
  | cons c cs ih =>
    rw [List.flatMap_cons, List.append_assoc, escapeChar]
    split
    next hquote =>
      rw [hquote, List.cons_append, List.singleton_append, quotedRest, ih]
      rfl
    next hquote =>
      rw [List.singleton_append, quotedRest, ih]
      · rfl
      · exact fun _ h => absurd h hquote
      · exact hquote

/-- What may stand behind a field may stand behind its end. -/
theorem Follows.tail {c : Char} (h : Follows (c :: cs) rest) : Follows cs rest := by
  cases h with
  | comma rest => exact .comma rest
  | lineFeed rest hlast =>
    refine .lineFeed rest fun hreturn => hlast ?_
    rw [List.getLast?_cons, hreturn]
    rfl

/-- **No line ends within a field** that has no special characters, nor with its last one. -/
theorem not_startsLineEnd {c : Char} (hplain : cs.any isSpecial = false)
    (hrest : Follows (c :: cs) rest) : ∀ more, c = '\r' → cs ++ rest ≠ '\n' :: more := by
  rintro more rfl heq
  cases cs with
  | nil =>
    cases hrest with
    | comma rest => cases heq
    | lineFeed rest hlast => exact hlast rfl
  | cons d ds =>
    cases heq
    cases hplain

/-- **A field without special characters goes on to what follows it.** -/
theorem bareField_append (hplain : cs.any isSpecial = false) (hrest : Follows cs rest) :
    bareField (cs ++ rest) = (cs, rest) := by
  induction cs with
  | nil => cases hrest <;> rfl
  | cons c cs ih =>
    rw [List.any_cons, Bool.or_eq_false_iff] at hplain
    have hc : ¬ (c = ',' ∨ c = '"' ∨ c = '\n') := by
      simpa [isSpecial, and_assoc] using hplain.1
    rw [List.cons_append, bareField, if_neg hc, ih hplain.2 hrest.tail]
    exact not_startsLineEnd hplain.2 hrest

/-- **A field is read back** up to what follows it, whatever it holds. -/
theorem readField_append (hrest : Follows cs rest) :
    readField (field cs ++ rest) = some (cs, rest) := by
  have hquote : StartsWithout (· == '"') rest := by cases hrest <;> rfl
  rw [field]
  split
  next =>
    rw [List.cons_append, List.cons_append, List.append_assoc, readField, List.singleton_append,
      quotedRest_append cs hquote]
  next hplain =>
    rw [Bool.not_eq_true] at hplain
    rw [readField, bareField_append hplain hrest]
    -- the first character is no quote, neither of the field nor behind it
    intro more heq
    cases cs with
    | nil => cases hrest <;> cases heq
    | cons c cs =>
      cases heq
      cases hplain

/-! ## Records -/

/-- **A record that comes back**: it has a field, and its last one does not end in a
carriage return. -/
inductive EndsPlainly : List (List Char) → Prop where
  | last {cs : List Char} : cs.getLast? ≠ some '\r' → EndsPlainly [cs]
  | cons (cs : List Char) {r : List (List Char)} : EndsPlainly r → EndsPlainly (cs :: r)

/-- **A record is read back** up to the end of its line. -/
theorem readRecord_append (h : EndsPlainly r) (rest : List Char) :
    readRecord (record r ++ '\n' :: rest) = some (r, rest) := by
  induction h with
  | @last cs hlast =>
    rw [record_singleton, readRecord, readField_append (.lineFeed rest hlast)]
    rfl
  | @cons cs r hr ih =>
    obtain ⟨next, more, rfl⟩ : ∃ next more, r = next :: more := by cases hr <;> exact ⟨_, _, rfl⟩
    have hlt : (record (next :: more) ++ '\n' :: rest).length
        < (field cs ++ ',' :: (record (next :: more) ++ '\n' :: rest)).length := by
      simp only [List.length_append, List.length_cons]
      omega
    rw [record_cons_cons, List.append_assoc, List.cons_append, readRecord,
      readField_append (.comma _)]
    simp only [bind, Option.bind, if_pos hlt, ih]
    rfl

/-- **Records are read back** one after the other. -/
theorem readAll?_records {rs : List (List (List Char))} (h : ∀ r ∈ rs, EndsPlainly r) :
    readAll? readRecord (records rs) = some rs := by
  induction rs with
  | nil => rw [records_nil, Text.readAll?_nil]
  | cons r rs ih =>
    obtain ⟨hr, hrs⟩ := List.forall_mem_cons.mp h
    have hlt : (records rs).length < (record r ++ '\n' :: records rs).length := by
      simp only [List.length_append, List.length_cons]
      omega
    rw [records_cons, Text.readAll?_of_read (readRecord_append hr _) hlt, ih hrs]
    rfl

-- the return at the end of a last field is taken for the end of the line
example : readAll? readRecord (records [["a\r".toList, "b\r".toList]])
    = some [["a\r".toList, "b".toList]] := by
  decide +kernel

end Report.Separated

/-! ## Numbers as fields -/

namespace Number

/-- **A text in plain decimals**: digits, a point, a sign. -/
def IsPlainDecimal (cs : List Char) : Prop :=
  ∀ c ∈ cs, c.isDigit = true ∨ c = '.' ∨ c = '-'

variable {a b digits : List Char}

theorem isPlainDecimal_nil : IsPlainDecimal [] :=
  fun _ hc => absurd hc List.not_mem_nil

theorem isPlainDecimal_zeros (n : Nat) : IsPlainDecimal (List.replicate n '0') := by
  intro c hc
  rw [List.eq_of_mem_replicate hc]
  exact .inl rfl

theorem isPlainDecimal_digits (n : Nat) : IsPlainDecimal (Numeral.digits n) :=
  fun _ hc => .inl (Numeral.isDigit_of_mem_digits hc)

theorem IsPlainDecimal.append (ha : IsPlainDecimal a) (hb : IsPlainDecimal b) :
    IsPlainDecimal (a ++ b) :=
  List.forall_mem_append.mpr ⟨ha, hb⟩

/-- Digits with a point among them. -/
theorem IsPlainDecimal.positionalText {point : Int} (h : IsPlainDecimal digits) :
    IsPlainDecimal (positionalText plainLayout digits point) := by
  have hwhole : IsPlainDecimal (wholePart digits point) := by
    rw [wholePart]
    split
    · exact isPlainDecimal_zeros 1
    · exact .append (fun c hc => h c (List.mem_of_mem_take hc)) (isPlainDecimal_zeros _)
  have hdecimals : IsPlainDecimal (decimals digits point) := by
    rw [decimals]
    split
    · exact (isPlainDecimal_zeros _).append h
    · exact fun c hc => h c (List.mem_of_mem_drop hc)
  have hkept : ((decimals digits point).isEmpty && plainLayout.keepsDecimal) = false :=
    Bool.and_false _
  rw [Number.positionalText]
  simp only [hkept, Bool.false_eq_true, if_false]
  refine hwhole.append ?_
  split
  · exact isPlainDecimal_nil
  · exact List.forall_mem_cons.mpr ⟨.inr (.inl rfl), hdecimals⟩

/-- **A double in a table is written in plain decimals.** -/
theorem isPlainDecimal_floatText (x : Float) :
    IsPlainDecimal (floatText plainLayout x).toList := by
  rw [floatText, String.toList_ofList]
  refine IsPlainDecimal.append ?_ ?_
  · split
    · exact List.forall_mem_singleton.mpr (.inr (.inr rfl))
    · exact isPlainDecimal_nil
  · rw [magnitudeText]
    split
    · exact (isPlainDecimal_zeros 1).positionalText
    · exact (isPlainDecimal_digits _).positionalText

end Number

namespace MetricValue

/-- **No number ends in a carriage return**: neither a count nor a percentage, be it a
double or not. -/
theorem getLast?_display {v : MetricValue} (h : v.label? = none) :
    v.display.toList.getLast? ≠ some '\r' := by
  intro hlast
  have hreturn : ∀ {cs : List Char}, Number.IsPlainDecimal cs → cs.getLast? ≠ some '\r' := by
    intro cs hcs hlast
    exact absurd (hcs _ (List.mem_of_getLast? hlast)) (by decide)
  cases v with
  | label s => cases h
  | count n =>
    rw [display, Numeral.ofNat, String.toList_ofList] at hlast
    exact hreturn (Number.isPlainDecimal_digits n) hlast
  | percent p =>
    rw [display, percentText] at hlast
    split at hlast
    · exact absurd hlast (by decide)
    split at hlast
    · split at hlast <;> exact absurd hlast (by decide)
    · exact hreturn (Number.isPlainDecimal_floatText p) hlast

end MetricValue

/-! ## Reports -/

/-- **A row as selectors make them**: a label or a count, a number of views, and a count or a
percentage. -/
structure MetricRow.IsRegular (r : MetricRow) : Prop where
  x : r.x.percent? = none
  z : r.z.label? = none

namespace Metric

/-- The titles of the rows of a metric. -/
def titles : Metric → Report.Titles
  | grouped object _ => Report.groupedTitles object
  | ranking top _ => Report.rankingTitles top
  | growth _ _ => Report.growthTitles

/-- **The rows of a metric are regular**, whatever the rows of its plan are. -/
theorem isRegular_shape (metric : Metric) (rows : List Row) :
    ∀ r ∈ metric.shape rows, r.IsRegular := by
  cases metric with
  | grouped object range => exact List.forall_mem_map.mpr fun _ _ => ⟨rfl, rfl⟩
  | ranking top bounds => exact List.forall_mem_map.mpr fun _ _ => ⟨rfl, rfl⟩
  | growth compare owner =>
    have hfrom (b : Bucket) (previous : Option Nat) :
        ∀ r ∈ Growth.shapeFrom b previous rows, r.IsRegular := by
      induction rows generalizing previous with
      | nil => exact fun r hr => absurd hr List.not_mem_nil
      | cons row rows ih =>
        rw [Growth.shapeFrom]
        split
        · exact ih previous
        · exact List.forall_mem_cons.mpr ⟨⟨rfl, rfl⟩, ih _⟩
    exact hfrom compare.bucket none

/-- No title ends in a carriage return. -/
theorem getLast?_titles (metric : Metric) : metric.titles.second.toList.getLast? ≠ some '\r' := by
  cases metric with
  | grouped object range =>
    show (Report.groupedTitles object).second.toList.getLast? ≠ _
    cases object <;> decide
  | ranking top bounds =>
    show (Report.rankingTitles top).second.toList.getLast? ≠ _
    cases top <;> decide
  | growth compare owner =>
    show Report.growthTitles.second.toList.getLast? ≠ _
    decide

/-- **A report comes back from its comma-separated values.** Read as RFC 4180 has it, the
text has the titles for its first record and behind it one record for each row, in their
order, whose fields are the texts of the three slots. The rows of every metric are of the
kind that comes back. -/
theorem separatedText_reads_back (metric : Metric) :
    (∀ rows : List MetricRow, (∀ r ∈ rows, r.IsRegular) →
        Report.Separated.read? (Report.separatedText metric.titles rows)
          = some ([metric.titles.label, metric.titles.first, metric.titles.second]
            :: rows.map fun r => [r.x.display, Numeral.ofNat r.y, r.z.display])) ∧
      ∀ rows : List Row, ∀ r ∈ metric.shape rows, r.IsRegular := by
  refine ⟨fun rows hrows => ?_, metric.isRegular_shape⟩
  have hback : ∀ r ∈ (metric.titles :: rows.map Report.lineOf).map Report.fieldsOf,
      Report.Separated.EndsPlainly r := by
    refine List.forall_mem_map.mpr (List.forall_mem_cons.mpr ⟨?_, List.forall_mem_map.mpr ?_⟩)
    · exact .cons _ (.cons _ (.last metric.getLast?_titles))
    · exact fun r hr => .cons _ (.cons _ (.last (MetricValue.getLast?_display (hrows r hr).z)))
  rw [Report.Separated.read?, Report.separatedText, String.toList_ofList,
    Report.Separated.readAll?_records hback]
  simp [Report.fieldsOf, Report.lineOf, Function.comp_def]

/-- A label with a comma, quotes and the end of a line, and one that ends in a carriage
return. -/
theorem separatedText_reads_back_lineEnds :
    Report.Separated.read? (Report.separatedText (titles (.grouped .country .month))
        [⟨.label "a, \"b\"\r\n", 2, .count 30⟩, ⟨.label "c\r", 1, .count 1⟩])
      = some [["Country", "Blogs", "Views"], ["a, \"b\"\r\n", "2", "30"], ["c\r", "1", "1"]] := by
  have hrows : ∀ r ∈ ([⟨.label "a, \"b\"\r\n", 2, .count 30⟩, ⟨.label "c\r", 1, .count 1⟩] :
      List MetricRow), r.IsRegular :=
    List.forall_mem_cons.mpr ⟨⟨rfl, rfl⟩, List.forall_mem_singleton.mpr ⟨rfl, rfl⟩⟩
  exact (separatedText_reads_back (.grouped .country .month)).1 _ hrows

end Metric

end Readership
