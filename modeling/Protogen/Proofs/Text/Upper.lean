import Protogen.Proofs.Naming

/-!
# Upper case is final

* `sourceCodes` are the code points that the tables change, `targetCodes` those that they lead to.
  No code point is both (`sources_targets_disjoint`), so that upper case has no other upper case
  (`upper_of_mem_upper`) and only an underscore has one in its upper case
  (`underscore_not_mem_upper`).
* The upper case of a letter or a digit of ASCII is one of its sort (`upper_alphanum`).
-/

set_option autoImplicit false

namespace Protogen.Text

/-- The code points of a run. -/
def CaseRun.sources (run : CaseRun) : List Nat :=
  List.range' run.first ((run.last - run.first) / run.step + 1) run.step

/-- Their other cases. -/
def CaseRun.targets (run : CaseRun) : List Nat :=
  List.range' run.target ((run.last - run.first) / run.step + 1) run.step

/-- The code points that upper case changes. -/
def sourceCodes : List Nat :=
  caseRuns.flatMap CaseRun.sources ++ longUpper.map Prod.fst

/-- The code points that it leads to; zero stands for those that are no characters. -/
def targetCodes : List Nat :=
  0 :: (caseRuns.flatMap CaseRun.targets ++ longUpper.flatMap Prod.snd)

/-- A set of code points as the bits of a number. -/
def bits (codes : List Nat) : Nat := codes.foldr (fun n rest => 1 <<< n ||| rest) 0

theorem testBit_bits (codes : List Nat) (n : Nat) :
    (bits codes).testBit n = decide (n ∈ codes) := by
  induction codes with
  | nil => simp [bits]
  | cons m codes ih =>
    unfold bits at ih ⊢
    rw [List.foldr_cons, Nat.testBit_or, ih, Nat.one_shiftLeft]
    simp [Nat.testBit_two_pow, eq_comm]

-- a membership test for every code point would walk through the tables far too often
theorem bits_disjoint : bits sourceCodes &&& bits targetCodes = 0 := by decide +kernel

theorem sources_targets_disjoint {n : Nat} (h : n ∈ targetCodes) : n ∉ sourceCodes := by
  intro hsource
  have hbit := congrArg (Nat.testBit · n) bits_disjoint
  simp [Nat.testBit_and, testBit_bits, h, hsource] at hbit

theorem CaseRun.exists_offset {run : CaseRun} {n : Nat} (h : run.covers n = true) :
    ∃ i < (run.last - run.first) / run.step + 1, n = run.first + run.step * i := by
  simp only [covers, Bool.and_eq_true, decide_eq_true_eq, beq_iff_eq] at h
  obtain ⟨⟨hfirst, hlast⟩, hstep⟩ := h
  have hle : (n - run.first) / run.step ≤ (run.last - run.first) / run.step :=
    Nat.div_le_div_right (by omega)
  have hmul : run.step * ((n - run.first) / run.step) = n - run.first :=
    Nat.mul_div_cancel' (Nat.dvd_of_mod_eq_zero hstep)
  exact ⟨(n - run.first) / run.step, by omega, by omega⟩

theorem toNat_mem_targetCodes {n : Nat} (h : n ∈ targetCodes) :
    (Char.ofNat n).toNat ∈ targetCodes := by
  rcases toNat_ofNat n with heq | heq
  · rwa [heq]
  · rw [heq]
    exact List.mem_cons_self ..

/-- A character that is not in the tables stays, all others lead into the second one. -/
theorem upper_cases (c : Char) :
    upper c = [c] ∨ upper c ≠ [] ∧ ∀ d ∈ upper c, d.toNat ∈ targetCodes := by
  have hlong : ∀ entry ∈ longUpper, entry.2 ≠ [] := by decide +kernel
  unfold upper
  split
  · rename_i run hfind
    right
    have hcovers : run.covers c.toNat = true := by simpa using List.find?_some hfind
    obtain ⟨i, hi, hcode⟩ := CaseRun.exists_offset hcovers
    refine ⟨List.cons_ne_nil _ _, fun d hd => ?_⟩
    rw [List.mem_singleton.1 hd]
    have hmem : run.target + (c.toNat - run.first) ∈ run.targets :=
      List.mem_range'.2 ⟨i, hi, by omega⟩
    have hrun := List.mem_flatMap_of_mem (List.mem_of_find?_eq_some hfind) hmem
    exact toNat_mem_targetCodes (List.mem_cons_of_mem _ (List.mem_append_left _ hrun))
  · split
    · rename_i codes hlookup
      right
      obtain ⟨front, rest, heq, -⟩ := List.lookup_eq_some_iff.1 hlookup
      have hentry : (c.toNat, codes) ∈ longUpper := by simp [heq]
      refine ⟨by simpa using hlong _ hentry, fun d hd => ?_⟩
      obtain ⟨n, hn, rfl⟩ := List.mem_map.1 hd
      have hmem := List.mem_flatMap_of_mem (f := Prod.snd) hentry hn
      exact toNat_mem_targetCodes (List.mem_cons_of_mem _ (List.mem_append_right _ hmem))
    · left
      rfl

theorem upper_ne_nil (c : Char) : upper c ≠ [] := by
  rcases upper_cases c with h | ⟨h, -⟩
  · simp [h]
  · exact h

theorem upper_of_not_mem {c : Char} (h : c.toNat ∉ sourceCodes) : upper c = [c] := by
  have hruns : caseRuns.find? (·.covers c.toNat) = none := by
    rw [List.find?_eq_none]
    intro run hrun hcovers
    obtain ⟨i, hi, hcode⟩ := CaseRun.exists_offset hcovers
    have hmem : c.toNat ∈ run.sources := List.mem_range'.2 ⟨i, hi, hcode⟩
    exact h (List.mem_append_left _ (List.mem_flatMap_of_mem hrun hmem))
  have hlong : longUpper.lookup c.toNat = none := by
    rw [List.lookup_eq_none_iff]
    intro entry hentry
    rw [bne_iff_ne]
    intro heq
    exact h (List.mem_append_right _ (heq ▸ List.mem_map_of_mem hentry))
  simp [upper, hruns, hlong]

/-- What is in upper case stays as it is. -/
theorem upper_of_mem_upper {c d : Char} (h : d ∈ upper c) : upper d = [d] := by
  rcases upper_cases c with hc | ⟨-, hc⟩
  · rw [hc, List.mem_singleton] at h
    rwa [h]
  · exact upper_of_not_mem (sources_targets_disjoint (hc d h))

theorem underscore_not_mem_upper {c : Char} (h : c ≠ '_') : '_' ∉ upper c := by
  intro hmem
  rcases upper_cases c with hc | ⟨-, hc⟩
  · rw [hc, List.mem_singleton] at hmem
    exact h hmem.symm
  · have hcode : ('_' : Char).toNat ∉ targetCodes := by decide +kernel
    exact hcode (hc _ hmem)

theorem toNat_le_of_isAlphanum {c : Char} (h : c.isAlphanum = true) : c.toNat ≤ 122 := by
  have hupper : c.isUpper = true → 65 ≤ c.toNat ∧ c.toNat ≤ 90 := of_decide_eq_true
  have hlower : c.isLower = true → c.toNat ≤ 122 := fun h =>
    of_decide_eq_true (Bool.and_eq_true_iff.1 h).2
  have hdigit : c.isDigit = true → 48 ≤ c.toNat ∧ c.toNat ≤ 57 := Char.isDigit_iff_toNat.1
  have hcases : ((c.isUpper || c.isLower) || c.isDigit) = true := h
  rw [Bool.or_eq_true, Bool.or_eq_true] at hcases
  rcases hcases with (h | h) | h
  · exact Nat.le_trans (hupper h).2 (by decide)
  · exact hlower h
  · exact Nat.le_trans (hdigit h).2 (by decide)

/-- A letter or a digit of ASCII stays one of the same sort. -/
theorem upper_alphanum {c : Char} (h : c.isAlphanum = true) :
    ∃ d, upper c = [d] ∧ d.isAlphanum = true ∧ d.isDigit = c.isDigit := by
  by_cases hlower : c.toNat < 97
  · have hsource : c.toNat ∉ sourceCodes := by
      have hfirst : ∀ n ∈ sourceCodes, 97 ≤ n := by decide +kernel
      intro hmem
      have hle := hfirst _ hmem
      omega
    exact ⟨c, upper_of_not_mem hsource, h, rfl⟩
  · have hge : 97 ≤ c.toNat := Nat.le_of_not_lt hlower
    have hle := toNat_le_of_isAlphanum h
    have hdigit : c.isDigit = false := by
      rw [← Bool.not_eq_true, Char.isDigit_iff_toNat]
      rintro ⟨-, hnine⟩
      exact hlower (Nat.lt_of_le_of_lt hnine (by decide))
    have hupper : upper c = [Char.ofNat (65 + (c.toNat - 97))] := by
      have hcovers : (CaseRun.mk 97 122 1 65).covers c.toNat = true := by
        simp [CaseRun.covers, hge, hle, Nat.mod_one]
      have hfind : caseRuns.find? (·.covers c.toNat) = some ⟨97, 122, 1, 65⟩ :=
        List.find?_cons_of_pos hcovers
      simp [upper, hfind]
    have hletters : ∀ i < 26, (Char.ofNat (65 + i)).isAlphanum = true ∧
        (Char.ofNat (65 + i)).isDigit = false := by decide
    obtain ⟨halpha, hnot⟩ := hletters (c.toNat - 97) (by omega)
    exact ⟨_, hupper, halpha, hnot.trans hdigit.symm⟩

end Protogen.Text
