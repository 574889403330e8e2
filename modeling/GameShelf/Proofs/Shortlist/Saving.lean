import GameShelf.Shortlist.Export

namespace GameShelf

namespace Outlet

variable {σ : Type}

/-- What writing into a room comes to: all bytes are taken, or those at the front that fit. -/
inductive Ends (Holds : σ → Nat → List UInt8 → Prop) (room : Nat) (taken bytes : List UInt8) :
    σ × Except Sink.Error Unit → Prop
  | whole {after : σ} (fits : bytes.length ≤ room)
      (holds : Holds after (room - bytes.length) (taken ++ bytes)) :
      Ends Holds room taken bytes (after, .ok ())
  | cut {after : σ} (tight : room < bytes.length)
      (holds : Holds after 0 (taken ++ bytes.take room)) :
      Ends Holds room taken bytes (after, .error .diskFull)

variable {Holds : σ → Nat → List UInt8 → Prop} {room : Nat} {taken : List UInt8}

/-- Writing goes on behind what has been taken. -/
theorem Ends.behind {first rest : List UInt8} {outcome : σ × Except Sink.Error Unit}
    (fits : first.length ≤ room)
    (ends : Ends Holds (room - first.length) (taken ++ first) rest outcome) :
    Ends Holds room taken (first ++ rest) outcome := by
  have length : (first ++ rest).length = first.length + rest.length := List.length_append
  cases ends with
  | whole fitting holds =>
    refine .whole (by omega) ?_
    rwa [length, Nat.sub_add_eq, ← List.append_assoc]
  | cut tight holds =>
    refine .cut (by omega) ?_
    rwa [List.take_append, List.take_of_length_le fits, ← List.append_assoc]

/-- A write that was cut stays cut when more was to follow. -/
theorem Ends.before {first rest : List UInt8} {after : σ} {error : Sink.Error}
    (ends : Ends Holds room taken first (after, .error error)) :
    Ends Holds room taken (first ++ rest) (after, .error error) := by
  cases ends with
  | cut tight holds =>
    have longer : room < (first ++ rest).length := by
      rw [List.length_append]
      omega
    refine .cut longer ?_
    rwa [List.take_append_of_le_length (Nat.le_of_lt tight)]

variable [Outlet σ]

/-- How sinks of limited room behave. `Holds` speaks of a sink before its flush: so many bytes still
fit, and these were taken. A write takes at least one byte while there is room, and fails without
room. `Flushed` speaks of a sink behind its flush, which may have failed. -/
structure Limited (Holds : σ → Nat → List UInt8 → Prop) (Flushed : σ → List UInt8 → Prop) :
    Prop where
  refuses : ∀ {sink taken bytes}, Holds sink 0 taken → bytes ≠ [] →
    ∃ after, write sink bytes = (after, .error .diskFull) ∧ Holds after 0 taken
  takes : ∀ {sink room taken bytes}, Holds sink room taken → 0 < room → bytes ≠ [] →
    ∃ after n, write sink bytes = (after, .ok n) ∧ 0 < n ∧ n ≤ room ∧ n ≤ bytes.length ∧
      Holds after (room - n) (taken ++ bytes.take n)
  flushes : ∀ {sink room taken}, Holds sink room taken →
    Flushed (flush sink).1 taken ∧
      ((flush sink).2 = .ok () ∨ (flush sink).2 = .error .flushFailed)

variable {Flushed : σ → List UInt8 → Prop} {sink : σ}

/-- By induction on the bytes that are left after each write. -/
theorem Limited.writeAll (limited : Limited Holds Flushed) (bytes : List UInt8)
    (holds : Holds sink room taken) :
    Ends Holds room taken bytes (Outlet.writeAll sink bytes) := by
  fun_induction Outlet.writeAll sink bytes generalizing room taken with
  | case1 sink => exact .whole (Nat.zero_le _) (by simpa using holds)
  | case2 sink bytes some after error outcome =>
    rcases Nat.eq_zero_or_pos room with rfl | positive
    · obtain ⟨full, refused, still⟩ := limited.refuses holds some
      obtain ⟨rfl, rfl⟩ : after = full ∧ error = .diskFull := by simpa [refused] using outcome.symm
      exact .cut (List.length_pos_iff.mpr some) (by simpa using still)
    · obtain ⟨_, n, took, -⟩ := limited.takes holds positive some
      simp [took] at outcome
  | case3 sink bytes some after outcome =>
    rcases Nat.eq_zero_or_pos room with rfl | positive
    · obtain ⟨full, refused, -⟩ := limited.refuses holds some
      simp [refused] at outcome
    · obtain ⟨_, n, took, more, -⟩ := limited.takes holds positive some
      simp only [took, Prod.mk.injEq, Except.ok.injEq] at outcome
      omega
  | case4 sink bytes some after n outcome ih =>
    rcases Nat.eq_zero_or_pos room with rfl | positive
    · obtain ⟨full, refused, -⟩ := limited.refuses holds some
      simp [refused] at outcome
    · obtain ⟨later, m, took, more, fits, inside, holds⟩ := limited.takes holds positive some
      obtain ⟨rfl, rfl⟩ : later = after ∧ m = n + 1 := by simpa [took] using outcome
      have length : (bytes.take (n + 1)).length = n + 1 := List.length_take_of_le inside
      have fitting : (bytes.take (n + 1)).length ≤ room := by omega
      have all := Ends.behind fitting (by simpa only [length] using ih holds)
      rwa [List.take_append_drop] at all

/-- By induction on the pieces, each of them written into the room that is left. -/
theorem Limited.writePieces (limited : Limited Holds Flushed) (pieces : List (List UInt8))
    (holds : Holds sink room taken) :
    Ends Holds room taken pieces.flatten (Outlet.writePieces sink pieces) := by
  induction pieces generalizing sink room taken with
  | nil => exact .whole (Nat.zero_le _) (by simpa using holds)
  | cons piece pieces ih =>
    have first := limited.writeAll piece holds
    rw [List.flatten_cons, Outlet.writePieces]
    generalize Outlet.writeAll sink piece = outcome at first
    cases first with
    | whole fits next => exact .behind fits (ih next)
    | cut tight full => exact (Ends.cut tight full).before

end Outlet

/-- The sink of the model takes all that fits in one write. -/
theorem Sink.limited : Outlet.Limited
    (fun (sink : Sink) room taken => sink.room = some room ∧ sink.taken = taken)
    (fun sink taken => sink.taken = taken) where
  refuses := by
    rintro sink taken bytes ⟨room, rfl⟩ some
    exact ⟨sink, by simp [Outlet.write, Sink.accepts, room, some], room, rfl⟩
  takes := by
    rintro sink room taken bytes ⟨fitting, rfl⟩ positive some
    have length : 0 < bytes.length := List.length_pos_iff.mpr some
    have accepts : sink.accepts bytes = min room bytes.length := by rw [Sink.accepts, fitting]
    have more : sink.accepts bytes ≠ 0 := by omega
    refine ⟨_, sink.accepts bytes, if_neg (not_and_of_not_right _ more), by omega, by omega,
      by omega, ?_, rfl⟩
    rw [fitting, Option.map_some]
  flushes := by
    rintro sink room taken ⟨-, rfl⟩
    refine ⟨rfl, ?_⟩
    cases fails : sink.flushFails
    · exact Or.inl (by simp [Outlet.flush, fails])
    · exact Or.inr (by simp [Outlet.flush, fails])

/-- A sink that takes a single byte in each write. It counts its flushes, all of which fail. -/
structure Dropper where
  room : Nat
  taken : List UInt8
  flushes : Nat

instance : Outlet Dropper where
  write
    | sink, [] => (sink, .ok 0)
    | ⟨0, taken, flushes⟩, _ :: _ => (⟨0, taken, flushes⟩, .error .diskFull)
    | ⟨room + 1, taken, flushes⟩, byte :: _ => (⟨room, taken ++ [byte], flushes⟩, .ok 1)
  flush sink := ({ sink with flushes := sink.flushes + 1 }, .error .flushFailed)

theorem Dropper.limited : Outlet.Limited
    (fun (sink : Dropper) room taken => sink = ⟨room, taken, 0⟩)
    (fun sink taken => ∃ room, sink = ⟨room, taken, 1⟩) where
  refuses := by
    rintro _ taken (_ | ⟨byte, bytes⟩) rfl some
    · exact absurd rfl some
    · exact ⟨_, rfl, rfl⟩
  takes := by
    rintro _ (_ | room) taken (_ | ⟨byte, bytes⟩) rfl positive some
    · exact absurd rfl some
    · exact absurd positive (Nat.lt_irrefl 0)
    · exact absurd rfl some
    · exact ⟨_, 1, rfl, Nat.one_pos, Nat.le_add_left 1 room, Nat.le_add_left 1 bytes.length, rfl⟩
  flushes := by
    rintro _ room taken rfl
    exact ⟨⟨room, rfl⟩, Or.inr rfl⟩

namespace Shortlist

/-- The bytes of the whole text. -/
def bytes (list : Shortlist) : List UInt8 :=
  list.text.toUTF8.data.toList

theorem flatten_pieces (list : Shortlist) : list.pieces.flatten = list.bytes := by
  rw [bytes, pieces, text]
  induction list.names with
  | nil => rfl
  | cons name names ih =>
    rw [List.flatMap_cons, List.flatten_append, ih, List.map_cons, String.join_cons,
      String.toUTF8_eq_toByteArray, String.toUTF8_eq_toByteArray, String.toUTF8_eq_toByteArray,
      String.toByteArray_append, String.toByteArray_append, ByteArray.toList_data_append,
      ByteArray.toList_data_append]
    rfl

variable {σ : Type} [Outlet σ] {Holds : σ → Nat → List UInt8 → Prop}
  {Flushed : σ → List UInt8 → Prop} {list : Shortlist} {sink after : σ}

theorem saveTo_of_error {error : Sink.Error}
    (written : Outlet.writePieces sink list.pieces = (after, .error error)) :
    list.saveTo sink = (after, .error (.writeFailed error.message)) := by
  simp only [saveTo, writeTo, written]
  rfl

theorem saveTo_of_ok (written : Outlet.writePieces sink list.pieces = (after, .ok ())) :
    list.saveTo sink = ((Outlet.flush after).1,
      (Outlet.flush after).2.mapError fun error => .writeFailed error.message) := by
  simp only [saveTo, writeTo, written]

theorem saveTo_of_flushed (written : Outlet.writePieces sink list.pieces = (after, .ok ()))
    (flushed : (Outlet.flush after).2 = .ok ()) :
    list.saveTo sink = ((Outlet.flush after).1, .ok ()) := by
  rw [saveTo_of_ok written, flushed]
  rfl

theorem saveTo_of_unflushed {error : Sink.Error}
    (written : Outlet.writePieces sink list.pieces = (after, .ok ()))
    (failed : (Outlet.flush after).2 = .error error) :
    list.saveTo sink = ((Outlet.flush after).1, .error (.writeFailed error.message)) := by
  rw [saveTo_of_ok written, failed]
  rfl

theorem ends_writePieces (limited : Outlet.Limited Holds Flushed) (list : Shortlist) {room : Nat}
    (fresh : Holds sink room []) :
    Outlet.Ends Holds room [] list.bytes (Outlet.writePieces sink list.pieces) := by
  rw [← flatten_pieces]
  exact limited.writePieces list.pieces fresh

theorem taken_save {room : Nat} (fits : list.bytes.length ≤ room) (flushFails : Bool) :
    (list.save ⟨some room, flushFails, []⟩).1.taken = list.bytes := by
  have ends := ends_writePieces Sink.limited list
    (⟨rfl, rfl⟩ : (⟨some room, flushFails, []⟩ : Sink).room = some room ∧ _ = [])
  cases pieces : Outlet.writePieces (⟨some room, flushFails, []⟩ : Sink) list.pieces with
    | mk after result =>
  rw [pieces] at ends
  cases ends with
  | cut tight _ => omega
  | whole _ holds =>
    rw [save, saveTo_of_ok pieces]
    exact holds.2

/-- A sink with room for `k` bytes has the first `min k n` of the `n` bytes of a list when the list
was saved to it. If they do not all fit, the disk is full and no flush was tried; otherwise the
flush behind the last write decides. -/
theorem save_takes_what_fits (limited : Outlet.Limited Holds Flushed) (list : Shortlist) {sink : σ}
    {k : Nat} (fresh : Holds sink k []) :
    let n := list.bytes.length
    let written := (Outlet.writePieces sink list.pieces).1
    let outcome := list.saveTo sink
    (k < n → outcome.1 = written ∧ Holds outcome.1 0 (list.bytes.take (min k n))) ∧
      (n ≤ k → outcome.1 = (Outlet.flush written).1 ∧
        Flushed outcome.1 (list.bytes.take (min k n))) ∧
      (outcome.2 = .ok () ↔ n ≤ k ∧ (Outlet.flush written).2 = .ok ()) ∧
      (outcome.2 = .error (.writeFailed "disk full") ↔ k < n) ∧
      (outcome.2 = .error (.writeFailed "flush failed") ↔
        n ≤ k ∧ (Outlet.flush written).2 ≠ .ok ()) := by
  intro n written outcome
  have ends := ends_writePieces limited list fresh
  cases pieces : Outlet.writePieces sink list.pieces with | mk after result =>
  have last : written = after := congrArg Prod.fst pieces
  rw [pieces] at ends
  cases ends with
  | cut tight holds =>
    have saved : outcome = (after, .error (.writeFailed "disk full")) := saveTo_of_error pieces
    have least : min k n = k := by omega
    have beyond : ¬ n ≤ k := by omega
    rw [saved, last, least]
    simpa [beyond, tight, n] using holds
  | whole fits holds =>
    obtain ⟨flushed, result⟩ := limited.flushes holds
    have least : min k n = n := by omega
    have under : ¬ k < n := by omega
    rcases result with done | failed
    · have saved : outcome = _ := saveTo_of_flushed pieces done
      rw [saved, last, least, List.take_length]
      simpa [under, fits, n, done] using flushed
    · have saved : outcome = _ := saveTo_of_unflushed pieces failed
      rw [saved, last, least, List.take_length]
      simpa [under, fits, n, failed, Sink.Error.message] using flushed

/-- The list of the one name `Gö`, cut off inside its second letter, and whole but not flushed. -/
theorem save_takes_what_fits_of_drops :
    Outlet.Limited (fun (sink : Dropper) room taken => sink = ⟨room, taken, 0⟩)
        (fun sink taken => ∃ room, sink = ⟨room, taken, 1⟩) ∧
      (empty.insertAll ["Gö"]).1.saveTo (⟨2, [], 0⟩ : Dropper) =
        (⟨0, [0x47, 0xc3], 0⟩, .error (.writeFailed "disk full")) ∧
      ∃ room, (empty.insertAll ["Gö"]).1.saveTo (⟨4, [], 0⟩ : Dropper) =
        (⟨room, [0x47, 0xc3, 0xb6, 0x0a], 1⟩, .error (.writeFailed "flush failed")) := by
  have text : (empty.insertAll ["Gö"]).1.bytes = [0x47, 0xc3, 0xb6, 0x0a] := by decide +kernel
  have cut := save_takes_what_fits Dropper.limited (empty.insertAll ["Gö"]).1
    (rfl : (⟨2, [], 0⟩ : Dropper) = ⟨2, [], 0⟩)
  have failed := save_takes_what_fits Dropper.limited (empty.insertAll ["Gö"]).1
    (rfl : (⟨4, [], 0⟩ : Dropper) = ⟨4, [], 0⟩)
  simp only [text] at cut failed
  obtain ⟨front, -, -, full, -⟩ := cut
  obtain ⟨-, whole, -, -, unflushed⟩ := failed
  refine ⟨Dropper.limited, ?_, ?_⟩
  · exact Prod.ext (front (by decide)).2 (full.mpr (by decide))
  · obtain ⟨room, sink⟩ := (whole (by decide)).2
    exact ⟨room, Prod.ext sink (unflushed.mpr ⟨by decide, by rintro ⟨⟩⟩)⟩

end Shortlist

end GameShelf
