import GameShelf.Filter.Predicate
import GameShelf.Proofs.Text.Occurrence
import GameShelf.Proofs.Text.WordEnd

namespace GameShelf

namespace Text

/-- A form with more of one character than another does not occur in it. -/
theorem not_infix_of_count_lt (c : Char) {mark text : List Char}
    (more : text.count c < mark.count c) : ¬ mark <:+: text :=
  fun inside => absurd (inside.sublist.count_le c) (Nat.not_le.mpr more)

theorem meetsCased_letter : meetsCased ['a'] = true := by decide +kernel

/-- In a name with a letter in front, a sigma that has none before it ends a word. -/
theorem not_infix_of_open_before {left right : List Char} (bare : left.all isCaseIgnorable)
    (none : meetsCased right = false) :
    ¬ lowered (left ++ 'Σ' :: right) <:+: lowered ('a' :: left ++ 'Σ' :: right) := by
  have alone : endsWord left.reverse right = false := by
    unfold endsWord
    rw [meetsCased_of_all (by rwa [List.all_reverse]), Bool.false_and]
  have joined : endsWord ('a' :: left).reverse right = true := by
    unfold endsWord
    rw [List.reverse_cons, meetsCased_append, List.all_reverse, if_pos bare, meetsCased_letter,
      none]
    rfl
  have front : lowerWithin [] ('a' :: left) ['Σ'] = 'a' :: lowerWithin [] left ['Σ'] := by
    rw [lowerWithin_of_all bare [] ['a'] ['Σ'] ['Σ']]
    rfl
  rw [lowered_sigma, lowered_sigma, alone, joined, front]
  refine not_infix_of_count_lt 'σ' ?_
  simp

/-- In a name with a letter behind, a sigma that has none after it ends no word. -/
theorem not_infix_of_open_after {left right : List Char} (blank : right.all isCaseIgnorable)
    (letter : meetsCased left.reverse = true) :
    ¬ lowered (left ++ 'Σ' :: right) <:+: lowered (left ++ 'Σ' :: (right ++ ['a'])) := by
  have alone : endsWord left.reverse right = true := by
    unfold endsWord
    rw [letter, meetsCased_of_all blank]
    rfl
  have joined : endsWord left.reverse (right ++ ['a']) = false := by
    unfold endsWord
    rw [meetsCased_append, if_pos blank, meetsCased_letter, Bool.not_true, Bool.and_false]
  have back : lowerWithin ['Σ'] (right ++ ['a']) [] = lowerWithin ['Σ'] right [] ++ ['a'] := by
    rw [lowerWithin_append, lowerWithin_of_all blank ['Σ'] ['Σ'] _ []]
    rfl
  rw [lowered_sigma, lowered_sigma, alone, joined, back]
  refine not_infix_of_count_lt 'ς' ?_
  simp

end Text

namespace Clause

open Text

theorem accepts_contains_iff {literal : String} {game : Game} :
    (predicate ⟨.name, .contains, literal⟩).accepts game ↔
      lowered literal.toList <:+: lowered game.name.toList := by
  rw [← occursIn_iff_infix, ← toList_lower, ← toList_lower]
  rfl

theorem accepts_contains_of_same_form {literal : String} {game : Game} {left right : List Char}
    (inside : game.name.toList = left ++ literal.toList ++ right)
    (same : lowerWithin left.reverse literal.toList right = lowered literal.toList) :
    (predicate ⟨.name, .contains, literal⟩).accepts game := by
  have whole : lowered game.name.toList =
      lowerWithin [] left (literal.toList ++ right) ++ lowered literal.toList ++
        lowerFrom (literal.toList.reverse ++ left.reverse) right := by
    rw [inside, lowered, List.append_assoc, lowerFrom_append, lowerFrom_append, List.append_nil,
      same, List.append_assoc]
  rw [accepts_contains_iff, whole]
  exact ⟨_, _, rfl⟩

/-- A literal that leaves a sigma open stands in a name in which it is not found. -/
theorem exists_missed_of_leavesOpen {literal : String} (opened : LeavesOpen literal.toList) :
    ∃ game : Game, literal.toList <:+: game.name.toList ∧
      (predicate ⟨.name, .contains, literal⟩).accepts game = false := by
  have missed {name : List Char} (inside : literal.toList <:+: name)
      (lost : ¬ lowered literal.toList <:+: lowered name) :
      ∃ game : Game, literal.toList <:+: game.name.toList ∧
        (predicate ⟨.name, .contains, literal⟩).accepts game = false := by
    refine ⟨⟨String.ofList name, 1, 2, 4, 30, 60, default, 1, default, 2000⟩, ?_, ?_⟩
    · rwa [String.toList_ofList]
    · rw [Bool.eq_false_iff, ne_eq, accepts_contains_iff, String.toList_ofList]
      exact lost
  obtain ⟨left, right, shape, ⟨bare, none⟩ | ⟨blank, letter⟩⟩ := opened
  · have lost := not_infix_of_open_before bare none
    rw [← shape] at lost
    refine missed ⟨['a'], [], ?_⟩ lost
    rw [shape, List.append_nil]
    rfl
  · have lost := not_infix_of_open_after blank letter
    rw [← shape] at lost
    refine missed ⟨[], ['a'], ?_⟩ lost
    rw [shape, List.nil_append, List.append_assoc]
    rfl

/-- Names that contain a literal letter by letter are all accepted if and only if the literal leaves
none of its sigmas open. In one name, it is enough that the sigmas there end words where those of
the literal alone do. -/
theorem contains_keeps_verbatim_iff (literal : String) :
    ((∀ game : Game, literal.toList <:+: game.name.toList →
        (predicate ⟨.name, .contains, literal⟩).accepts game) ↔ ¬ LeavesOpen literal.toList) ∧
      ∀ (game : Game) (left right : List Char),
        game.name.toList = left ++ literal.toList ++ right →
        (∀ before after, literal.toList = before ++ 'Σ' :: after →
          endsWord (before.reverse ++ left.reverse) (after ++ right) =
            endsWord before.reverse after) →
        (predicate ⟨.name, .contains, literal⟩).accepts game := by
  refine ⟨⟨fun all opened => ?_, fun decided game inside => ?_⟩, fun game left right inside same =>
    accepts_contains_of_same_form inside ?_⟩
  · obtain ⟨game, inside, missed⟩ := exists_missed_of_leavesOpen opened
    rw [all game inside] at missed
    cases missed
  · obtain ⟨left, right, inside⟩ := inside
    exact accepts_contains_of_same_form inside.symm (lowerWithin_eq_lowered decided _ _)
  · rw [lowered_eq_lowerWithin]
    refine lowerWithin_congr fun before after shape => ?_
    rw [same before after shape, List.append_nil, List.append_nil]

/-- The sigma that ends the literal ends no word in the name. -/
theorem contains_misses_sigma :
    let game : Game := ⟨"ΟΔΥΣΣΕΙΑ", 1, 2, 4, 30, 60, default, 1, default, 2000⟩
    parse "name~=ΟΔΥΣ" = .ok ⟨.name, .contains, "ΟΔΥΣ"⟩ ∧
      "ΟΔΥΣ" ≠ "" ∧ trim "ΟΔΥΣ" = "ΟΔΥΣ" ∧ "ΟΔΥΣ".toList <:+: game.name.toList ∧
      (predicate ⟨.name, .contains, "ΟΔΥΣ"⟩).accepts game = false := by
  decide +kernel

end Clause

end GameShelf
