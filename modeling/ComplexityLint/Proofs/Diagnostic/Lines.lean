import ComplexityLint.Proofs.Threshold

/-!
Lines. The analyzer and people count them from one, ranges from zero. On the way in one is taken off,
except from line zero; so the largest number is never left behind, and on the way out there is room
to add one (`onLine_ofViolation`).
-/

namespace ComplexityLint

theorem Range.toNat_start_ofLine (l : UInt32) : (ofLine l).start.line.toNat = l.toNat - 1 := by
  change (if l = 0 then 0 else l - 1).toNat = l.toNat - 1
  split
  · rename_i hzero
    rw [hzero]
    rfl
  · rename_i hzero
    have hpos : 1 ≤ l.toNat := by
      rw [← UInt32.toNat_inj] at hzero
      exact Nat.one_le_iff_ne_zero.mpr hzero
    exact UInt32.toNat_sub_of_le l 1 (UInt32.le_iff_toNat_le.mpr hpos)

namespace Diagnostic

/-- A diagnostic stands on a line that is counted from one: its range begins and ends on that line,
counted from zero, and counting from one again does not go beyond the largest number. -/
structure OnLine (d : Diagnostic) (n : ℕ) : Prop where
  single : d.range.start.line = d.range.stop.line
  bound : d.range.start.line.toNat ≤ 2 ^ 32 - 2
  room : d.range.start.line.toBitVec.uaddOverflow 1 = false
  line : d.line.toNat = n
  start : d.range.start.line.toNat = n - 1

/-- One can be added to any number but the largest. -/
theorem room_iff {d : Diagnostic} :
    d.range.start.line.toBitVec.uaddOverflow 1 = false ↔ d.range.start.line.toNat ≤ 2 ^ 32 - 2 := by
  have hone : (1 : BitVec 32).toNat = 1 := rfl
  rw [BitVec.uaddOverflow, decide_eq_false_iff_not, UInt32.toNat_toBitVec, hone]
  omega

theorem toNat_line {d : Diagnostic} (h : d.range.start.line.toBitVec.uaddOverflow 1 = false) :
    d.line.toNat = d.range.start.line.toNat + 1 :=
  BitVec.toNat_add_of_not_uaddOverflow (Bool.eq_false_iff.mp h)

/-- **No line overflows.** A diagnostic stands on the line of its violation, where line zero counts as
line one. -/
theorem onLine_ofViolation (file : String) (v : Violation) :
    (ofViolation file v).OnLine (max 1 v.startLine.toNat) := by
  have hlt := v.startLine.toNat_lt_size
  have hstart : (ofViolation file v).range.start.line.toNat = v.startLine.toNat - 1 :=
    Range.toNat_start_ofLine v.startLine
  have hbound : (ofViolation file v).range.start.line.toNat ≤ 2 ^ 32 - 2 := by
    rw [hstart]
    have hsize : UInt32.size = 2 ^ 32 := rfl
    omega
  refine ⟨rfl, hbound, room_iff.mpr hbound, ?_, ?_⟩
  · rw [toNat_line (room_iff.mpr hbound), hstart]
    omega
  · rw [hstart]
    omega

theorem onLine_of_mem_ofRecord {t : Thresholds} {r : FunctionRecord} {d : Diagnostic}
    (hd : d ∈ ofRecord t r) : d.OnLine (max 1 r.startLine.toNat) := by
  obtain ⟨v, hv, rfl⟩ := List.mem_map.mp hd
  have hline : v.startLine = r.startLine := by rw [(Thresholds.mem_evaluate.mp hv).2]; rfl
  exact hline ▸ onLine_ofViolation r.file v

end Diagnostic

end ComplexityLint
