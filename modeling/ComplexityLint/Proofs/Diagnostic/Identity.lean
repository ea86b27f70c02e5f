import Mathlib.Data.List.Nodup
import ComplexityLint.Proofs.Diagnostic.Lines
import ComplexityLint.Proofs.Text.Classes

/-!
What a diagnostic says of its violation. A message is read from its end: a number stands behind a
character that is no digit, and no description is the end of another one, so the name is what is left
in front, whatever it holds (`message_eq_iff`). A diagnostic adds the line, in which only zero and one
are the same (`ofViolation_eq_iff`). So different violations never make one diagnostic
(`identity_ofViolation`).
-/

namespace ComplexityLint

namespace Text

/-- A number at the end of a text, behind a character that is no digit, is found from the end. -/
theorem append_digits_inj {c : Char} (hc : isDigit c = false) {s s' : List Char} {n n' : UInt32}
    (h : s ++ c :: digits n = s' ++ c :: digits n') : s = s' ∧ n = n' := by
  have hfilled : ∀ k : UInt32, Filled isDigit (digits k).reverse := fun k =>
    ⟨by simpa using (filled_digits k).1, fun d hd => (filled_digits k).2 d (List.mem_reverse.mp hd)⟩
  have hstops : ∀ t : List Char, Stops isDigit (c :: t) := fun t => stops_cons.mpr hc
  have hreverse := congrArg List.reverse h
  rw [List.reverse_append, List.reverse_append, List.reverse_cons, List.reverse_cons,
    List.append_assoc, List.append_assoc, List.singleton_append, List.singleton_append] at hreverse
  obtain ⟨hnumber, hfront⟩ :=
    filled_append_inj (hfilled n) (hstops _) (hfilled n') (hstops _) hreverse
  exact ⟨List.reverse_inj.mp (List.cons.inj hfront).2, digits_injective (List.reverse_inj.mp hnumber)⟩

end Text

/-! ### Messages -/

namespace Violation

/-- The words between the name and the observed number. -/
def words (m : Metric) : List Char := ": ".toList ++ m.description.toList

theorem toList_message (v : Violation) :
    v.message.toList =
      ((v.function.toList ++ words v.metric ++ ' ' :: Text.digits v.observed) ++
        " higher then threshold ".toList ++ '(' :: Text.digits v.threshold) ++ [')'] := by
  have hopen : " higher then threshold (".toList = " higher then threshold ".toList ++ ['('] := rfl
  have hblank : " ".toList = [' '] := rfl
  have hclose : ")".toList = [')'] := rfl
  simp only [message, words, String.toList_append, Text.toList_toString, hopen, hblank, hclose,
    List.append_assoc, List.singleton_append]

/-- No description is the end of another one. -/
theorem eq_of_words_suffix {m m' : Metric} (h : words m <:+ words m') : m = m' := by
  revert h
  cases m <;> cases m' <;> decide

theorem append_words_inj {s s' : List Char} {m m' : Metric} (h : s ++ words m = s' ++ words m') :
    s = s' ∧ m = m' := by
  have hsuffix : words m <:+ s' ++ words m' := ⟨s, h⟩
  obtain rfl : m = m' := by
    rcases List.suffix_or_suffix_of_suffix hsuffix (List.suffix_append s' (words m')) with hm | hm
    · exact eq_of_words_suffix hm
    · exact (eq_of_words_suffix hm).symm
  exact ⟨List.append_cancel_right h, rfl⟩

/-- **A message tells the name, the metric, the number and the limit.** -/
theorem message_eq_iff {v v' : Violation} :
    v.message = v'.message ↔
      v.function = v'.function ∧ v.metric = v'.metric ∧ v.observed = v'.observed ∧
        v.threshold = v'.threshold := by
  constructor
  · intro h
    have hletters := congrArg String.toList h
    rw [toList_message, toList_message] at hletters
    obtain ⟨hfront, hthreshold⟩ :=
      Text.append_digits_inj (by decide) (List.append_cancel_right hletters)
    obtain ⟨hlead, hobserved⟩ :=
      Text.append_digits_inj (by decide) (List.append_cancel_right hfront)
    obtain ⟨hname, hmetric⟩ := append_words_inj hlead
    exact ⟨String.toList_inj.mp hname, hmetric, hobserved, hthreshold⟩
  · rintro ⟨hname, hmetric, hobserved, hthreshold⟩
    rw [message, message, hname, hmetric, hobserved, hthreshold]

end Violation

/-! ### Diagnostics -/

namespace Range

/-- Of the lines, only zero and one are taken for the same. -/
theorem ofLine_eq_iff {l l' : UInt32} : ofLine l = ofLine l' ↔ max 1 l.toNat = max 1 l'.toNat := by
  constructor
  · intro h
    have hstart := congrArg (fun r : Range => r.start.line.toNat) h
    simp only [toNat_start_ofLine] at hstart
    omega
  · intro h
    have hstart : (ofLine l).start.line = (ofLine l').start.line := by
      rw [← UInt32.toNat_inj, toNat_start_ofLine, toNat_start_ofLine]
      omega
    -- the other numbers of a range are the same for all lines
    exact congrArg (fun n : UInt32 => (⟨⟨n, 0⟩, ⟨n, 1⟩⟩ : Range)) hstart

end Range

namespace Diagnostic

theorem ofViolation_eq_iff {file : String} {v v' : Violation} :
    ofViolation file v = ofViolation file v' ↔
      v.message = v'.message ∧ max 1 v.startLine.toNat = max 1 v'.startLine.toNat := by
  rw [← Range.ofLine_eq_iff]
  constructor
  · intro h
    exact ⟨congrArg Diagnostic.message h, congrArg Diagnostic.range h⟩
  · rintro ⟨hmessage, hrange⟩
    have hmetric : v.metric = v'.metric := (Violation.message_eq_iff.mp hmessage).2.1
    rw [ofViolation, ofViolation, hmessage, hrange, hmetric]

theorem injOn_ofViolation (file : String) :
    Set.InjOn (ofViolation file) {v | 1 ≤ v.startLine.toNat} := by
  intro v hv v' hv' h
  obtain ⟨hmessage, hline⟩ := ofViolation_eq_iff.mp h
  obtain ⟨hname, hmetric, hobserved, hthreshold⟩ := Violation.message_eq_iff.mp hmessage
  have hline : v.startLine = v'.startLine := by
    have hv : 1 ≤ v.startLine.toNat := hv
    have hv' : 1 ≤ v'.startLine.toNat := hv'
    rw [← UInt32.toNat_inj]
    omega
  cases v
  cases v'
  simp_all

/-- The diagnostics of some records of one file are those of their violations. -/
theorem flatMap_ofRecord {file : String} (t : Thresholds) {rs : List FunctionRecord}
    (hfile : ∀ r ∈ rs, r.file = file) :
    rs.flatMap (ofRecord t) = (rs.flatMap t.evaluate).map (ofViolation file) := by
  rw [List.map_flatMap]
  refine List.flatMap_congr fun r hr => ?_
  rw [ofRecord, hfile r hr]

/-- **A diagnostic stands for one violation.** Two messages are equal exactly if the names, the
metrics, the numbers and the limits are, whatever the names hold. Two diagnostics of a file are equal
exactly if their messages are and the lines are, where line zero counts as line one. So with lines
that count from one, the findings of a file make as many different diagnostics as there are different
findings. -/
theorem identity_ofViolation (file : String) :
    (∀ v v' : Violation, v.message = v'.message ↔
      v.function = v'.function ∧ v.metric = v'.metric ∧ v.observed = v'.observed ∧
        v.threshold = v'.threshold) ∧
      (∀ v v' : Violation, ofViolation file v = ofViolation file v' ↔
        v.message = v'.message ∧ max 1 v.startLine.toNat = max 1 v'.startLine.toNat) ∧
      Set.InjOn (ofViolation file) {v | 1 ≤ v.startLine.toNat} ∧
      ∀ (t : Thresholds) (rs : List FunctionRecord),
        (∀ r ∈ rs, r.file = file ∧ 1 ≤ r.startLine.toNat) →
          ((rs.flatMap (ofRecord t)).Nodup ↔ (rs.flatMap t.evaluate).Nodup) := by
  refine ⟨fun _ _ => Violation.message_eq_iff, fun _ _ => ofViolation_eq_iff,
    injOn_ofViolation file, fun t rs hrs => ?_⟩
  have hline : ∀ v ∈ rs.flatMap t.evaluate, 1 ≤ v.startLine.toNat := by
    intro v hv
    obtain ⟨r, hr, hv⟩ := List.mem_flatMap.mp hv
    rw [(Thresholds.mem_evaluate.mp hv).2]
    exact (hrs r hr).2
  rw [flatMap_ofRecord t fun r hr => (hrs r hr).1]
  exact ⟨List.Nodup.of_map _, List.Nodup.map_on fun v hv v' hv' h =>
    injOn_ofViolation file (hline v hv) (hline v' hv') h⟩

/-- Two functions on one line, of which one is named as a message on the other. -/
theorem identity_ofViolation_of_message_in_name :
    let t : Thresholds := ⟨some 2, some 5, none, none⟩
    let rs : List FunctionRecord :=
      [⟨"f", "a.c", 3, 9, 0, 5, 7, 9⟩,
       ⟨"f: Cyclomatic complexity of 3 higher then threshold (2)", "a.c", 3, 9, 0, 5, 7, 9⟩]
    (∀ r ∈ rs, r.file = "a.c" ∧ 1 ≤ r.startLine.toNat) ∧
      (rs.flatMap (ofRecord t)).Nodup ∧ (rs.flatMap (ofRecord t)).length = 4 := by
  intro t rs
  have hrs : ∀ r ∈ rs, r.file = "a.c" ∧ 1 ≤ r.startLine.toNat := by decide
  obtain ⟨-, -, -, hnodup⟩ := identity_ofViolation "a.c"
  exact ⟨hrs, (hnodup t rs hrs).mpr (by decide), by decide⟩

end Diagnostic

end ComplexityLint
