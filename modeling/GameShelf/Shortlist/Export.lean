import GameShelf.Shortlist.Basic

namespace GameShelf

/-- Why bytes were not handed over. -/
inductive Sink.Error
  | diskFull
  | flushFailed
  | tookNothing
deriving DecidableEq

def Sink.Error.message : Sink.Error → String
  | diskFull => "disk full"
  | flushFailed => "flush failed"
  | tookNothing => "failed to write whole buffer"

/-- Where bytes can be handed over. A write says how many were taken, from the front of those that
were offered. -/
class Outlet (σ : Type) where
  write : σ → List UInt8 → σ × Except Sink.Error Nat
  flush : σ → σ × Except Sink.Error Unit

namespace Outlet

variable {σ : Type} [Outlet σ]

/-- Writes until nothing is left, or no more is taken. -/
def writeAll (sink : σ) (bytes : List UInt8) : σ × Except Sink.Error Unit :=
  if bytes = [] then (sink, .ok ())
  else match write sink bytes with
    | (sink, .error error) => (sink, .error error)
    | (sink, .ok 0) => (sink, .error .tookNothing)
    | (sink, .ok (n + 1)) => writeAll sink (bytes.drop (n + 1))
termination_by bytes.length
decreasing_by
  have : 0 < bytes.length := List.length_pos_iff.mpr (by assumption)
  simp only [List.length_drop]
  omega

/-- Writes several pieces, up to the first that fails. -/
def writePieces (sink : σ) : List (List UInt8) → σ × Except Sink.Error Unit
  | [] => (sink, .ok ())
  | piece :: pieces =>
    match writeAll sink piece with
    | (sink, .error error) => (sink, .error error)
    | (sink, .ok ()) => writePieces sink pieces

end Outlet

/-- A place for bytes. `room` counts those it still takes, without limit if it is absent. -/
structure Sink where
  room : Option Nat
  flushFails : Bool
  taken : List UInt8

/-- How many of `bytes` one write takes: as many as still fit. -/
def Sink.accepts (sink : Sink) (bytes : List UInt8) : Nat :=
  match sink.room with
  | none => bytes.length
  | some room => min room bytes.length

instance : Outlet Sink where
  write sink bytes :=
    let n := sink.accepts bytes
    if bytes ≠ [] ∧ n = 0 then (sink, .error .diskFull)
    else ({ sink with room := sink.room.map (· - n), taken := sink.taken ++ bytes.take n }, .ok n)
  flush sink := (sink, if sink.flushFails then .error .flushFailed else .ok ())

namespace Shortlist

/-- Each name and its line feed, apart. -/
def pieces (list : Shortlist) : List (List UInt8) :=
  list.names.flatMap fun name => [name.toUTF8.data.toList, [10]]

/-- The whole text: every name with a line feed after it. -/
def text (list : Shortlist) : String :=
  String.join (list.names.map (· ++ "\n"))

section Outlets

variable {σ : Type} [Outlet σ]

/-- Writes the list and flushes the sink. -/
def writeTo (list : Shortlist) (sink : σ) : σ × Except Sink.Error Unit :=
  match Outlet.writePieces sink list.pieces with
  | (sink, .error error) => (sink, .error error)
  | (sink, .ok ()) => Outlet.flush sink

/-- Writes the list, with a failure in the words of the list. -/
def saveTo (list : Shortlist) (sink : σ) : σ × Except ShortlistError Unit :=
  let (sink, result) := list.writeTo sink
  (sink, result.mapError fun error => .writeFailed error.message)

end Outlets

def save (list : Shortlist) (sink : Sink) : Sink × Except ShortlistError Unit :=
  list.saveTo sink

end Shortlist

end GameShelf
