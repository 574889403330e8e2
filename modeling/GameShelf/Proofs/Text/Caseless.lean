import GameShelf.Text.Lowercase

namespace GameShelf.Text

/-- A character of ASCII that is no capital. The letter `k` is left out, since the Kelvin sign has
it as its lower-case form. -/
def isPlain (c : Char) : Bool :=
  0 < c.toNat && c.toNat < 0x80 && c.toLower = c && c ≠ 'k'

theorem toLower_of_not_capital {c : Char} (small : ¬ (65 ≤ c.toNat ∧ c.toNat ≤ 90)) :
    c.toLower = c := by
  refine dif_neg fun bounds => small ?_
  have lower : 65 ≤ c.toNat := UInt32.le_iff_toNat_le.mp bounds.1
  have upper : c.toNat ≤ 90 := UInt32.le_iff_toNat_le.mp bounds.2
  exact ⟨lower, upper⟩

theorem toNat_toLower_of_capital {c : Char} (capital : 65 ≤ c.toNat ∧ c.toNat ≤ 90) :
    c.toLower.toNat = c.toNat + 32 := by
  have every : ∀ n < 91, 65 ≤ n → (Char.ofNat n).toLower.toNat = n + 32 := by decide
  have value := every c.toNat (by omega) capital.1
  rwa [Char.ofNat_toNat] at value

theorem isPlain_iff {c : Char} :
    isPlain c ↔ 0 < c.toNat ∧ c.toNat < 0x80 ∧ c.toLower = c ∧ c ≠ 'k' := by
  simp [isPlain, and_assoc]

theorem lowerBetween_of_lt {c : Char} (ascii : c.toNat < 0x80) (before after : List Char) :
    lowerBetween before c after = [c.toLower] := by
  have notSigma : c ≠ 'Σ' := by
    rintro rfl
    exact absurd ascii (by decide)
  rw [lowerBetween, if_neg notSigma, lowerLetter, if_pos ascii]

/-- The capitals of plain characters are in ASCII too. -/
theorem lowerBetween_of_isPlain {c : Char} (plain : isPlain c.toLower)
    (before after : List Char) : lowerBetween before c after = [c.toLower] := by
  refine lowerBetween_of_lt ?_ before after
  by_cases capital : 65 ≤ c.toNat ∧ c.toNat ≤ 90
  · omega
  · rw [toLower_of_not_capital capital] at plain
    exact (isPlain_iff.mp plain).2.1

theorem toNat_ofNat_cases (n : Nat) : (Char.ofNat n).toNat = n ∨ (Char.ofNat n).toNat = 0 := by
  by_cases valid : n.isValidChar
  · exact Or.inl (by rw [Char.ofNat, dif_pos valid]; rfl)
  · exact Or.inr (by rw [Char.ofNat, dif_neg valid]; rfl)

/-- Into ASCII lead its own capitals and the Kelvin sign. -/
theorem ascii_caseRuns : ∀ run ∈ caseRuns, run.lower < 0x80 →
    run.last < 0x80 ∨ run.first = run.last ∧ run.lower = 0x6b := by
  decide +kernel

theorem not_isPlain_lowerOf {run : CaseRun} {n : Nat} (member : run ∈ caseRuns)
    (holds : run.holds n) (above : 0x80 ≤ n) : isPlain (Char.ofNat (run.lowerOf n)) = false := by
  rw [← Bool.not_eq_true, isPlain_iff]
  rintro ⟨positive, ascii, -, notK⟩
  obtain ⟨⟨first, last⟩, -⟩ : (run.first ≤ n ∧ n ≤ run.last) ∧ _ := by
    simpa [CaseRun.holds] using holds
  rcases toNat_ofNat_cases (run.lowerOf n) with value | zero
  · rw [value, CaseRun.lowerOf] at ascii
    rcases ascii_caseRuns run member (by omega) with low | ⟨single, kelvin⟩
    · omega
    · have offset : run.lowerOf n = 0x6b := by
        rw [CaseRun.lowerOf]
        omega
      rw [offset] at notK
      exact notK rfl
  · omega

/-- A lower-case form that is plain throughout is that of a character of ASCII. -/
theorem lowerBetween_of_all_isPlain {before after : List Char} {c : Char}
    (plain : ∀ d ∈ lowerBetween before c after, isPlain d) :
    lowerBetween before c after = [c.toLower] := by
  by_cases ascii : c.toNat < 0x80
  · exact lowerBetween_of_lt ascii before after
  exfalso
  rw [lowerBetween] at plain
  split at plain
  · have sigma : isPlain 'ς' ∨ isPlain 'σ' := by
      split at plain
      · exact Or.inl (plain _ List.mem_cons_self)
      · exact Or.inr (plain _ List.mem_cons_self)
    rcases sigma with final | inner
    · cases final
    · cases inner
  rw [lowerLetter, if_neg ascii] at plain
  split at plain
  · cases plain '\u0307' (List.mem_cons_of_mem _ List.mem_cons_self)
  split at plain
  · rename_i run found
    have letter := plain _ List.mem_cons_self
    have holds : run.holds c.toNat := by
      have passes := List.find?_some found
      exact passes
    rw [not_isPlain_lowerOf (List.mem_of_find?_eq_some found) holds (by omega)] at letter
    cases letter
  · exact ascii (isPlain_iff.mp (plain c List.mem_cons_self)).2.1

theorem lowerFrom_of_isPlain {cs : List Char} (plain : ∀ c ∈ cs.map Char.toLower, isPlain c)
    (before : List Char) : lowerFrom before cs = cs.map Char.toLower := by
  induction cs generalizing before with
  | nil => rfl
  | cons c cs ih =>
    obtain ⟨first, later⟩ := List.forall_mem_cons.mp plain
    rw [lowerFrom, lowerBetween_of_isPlain first, ih later, List.map_cons, List.singleton_append]

theorem lowerFrom_of_all_isPlain {before cs : List Char}
    (plain : ∀ d ∈ lowerFrom before cs, isPlain d) :
    lowerFrom before cs = cs.map Char.toLower := by
  induction cs generalizing before with
  | nil => rfl
  | cons c cs ih =>
    rw [lowerFrom] at plain ⊢
    obtain ⟨first, later⟩ := List.forall_mem_append.mp plain
    rw [lowerBetween_of_all_isPlain first, ih later, List.map_cons, List.singleton_append]

/-- To have a plain text as lower-case form is to be that text up to the case of ASCII letters. -/
theorem lower_eq_iff_of_isPlain {text key : String} (plain : ∀ c ∈ key.toList, isPlain c) :
    lower text = key ↔ text.toList.map Char.toLower = key.toList := by
  rw [← String.toList_inj, toList_lower, lowered]
  constructor
  · intro same
    rw [← same] at plain
    rw [← lowerFrom_of_all_isPlain plain, same]
  · intro same
    rw [← same] at plain
    rw [lowerFrom_of_isPlain plain, same]

/-- A character of which row numbers and ranges of them are made. -/
def isMark (c : Char) : Bool :=
  c.isDigit || c = '-'

theorem isMark_iff {c : Char} : isMark c ↔ c.isDigit ∨ c = '-' := by
  simp [isMark]

/-- The marks come before the letters. -/
theorem toNat_of_isMark {c : Char} (mark : isMark c) : 45 ≤ c.toNat ∧ c.toNat ≤ 57 := by
  rcases isMark_iff.mp mark with digit | rfl
  · have bounds : 48 ≤ c.toNat ∧ c.toNat ≤ 57 := Char.isDigit_iff_toNat.mp digit
    omega
  · decide

/-- Marks have no case. -/
theorem toLower_eq_iff_of_isMark {c d : Char} (mark : isMark d) : c.toLower = d ↔ c = d := by
  obtain ⟨low, high⟩ := toNat_of_isMark mark
  by_cases capital : 65 ≤ c.toNat ∧ c.toNat ≤ 90
  · have letter := toNat_toLower_of_capital capital
    constructor
    · rintro rfl
      omega
    · rintro rfl
      omega
  · rw [toLower_of_not_capital capital]

theorem isPlain_of_isMark {c : Char} (mark : isMark c) : isPlain c := by
  have own := (toLower_eq_iff_of_isMark mark).mpr rfl
  obtain ⟨low, high⟩ := toNat_of_isMark mark
  refine isPlain_iff.mpr ⟨by omega, by omega, own, ?_⟩
  rintro rfl
  exact absurd high (by decide)

theorem map_toLower_eq_iff_of_isMark {cs ds : List Char} (marks : ∀ d ∈ ds, isMark d) :
    cs.map Char.toLower = ds ↔ cs = ds := by
  induction cs generalizing ds with
  | nil => rfl
  | cons c cs ih =>
    cases ds with
    | nil => simp
    | cons d ds =>
      obtain ⟨first, later⟩ := List.forall_mem_cons.mp marks
      rw [List.map_cons, List.cons.injEq, List.cons.injEq, toLower_eq_iff_of_isMark first, ih later]

/-- To be called like a row of marks is to be that row. -/
theorem lower_eq_iff_of_isMark {name token : String} (marks : ∀ c ∈ token.toList, isMark c) :
    lower name = lower token ↔ name = token := by
  have key (text : String) : lower text = token ↔ text = token := by
    rw [lower_eq_iff_of_isPlain fun c member => isPlain_of_isMark (marks c member),
      map_toLower_eq_iff_of_isMark marks, String.toList_inj]
  rw [(key token).mpr rfl, key]

end GameShelf.Text
