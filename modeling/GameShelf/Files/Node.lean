namespace GameShelf

/-- A device takes what is written to it. `null` drops it, `full` has no room for it, and nothing
can be read but from `input`. -/
inductive Device
  | null
  | full
  | input
  | output
  | errors
deriving DecidableEq

/-- A program is a file that can be started, and then succeeds or not. -/
inductive Node
  | directory
  | file (content : ByteArray)
  | program (content : ByteArray) (succeeds : Bool)
  | device (kind : Device)

namespace Node

/-- The bytes of a file, whether starting it succeeds if it can be started, and the device. -/
def parts : Node → Option (List UInt8) × Option Bool × Option Device
  | .directory => (none, none, none)
  | .file content => (some content.data.toList, none, none)
  | .program content succeeds => (some content.data.toList, some succeeds, none)
  | .device kind => (none, none, some kind)

theorem content_ext {a b : ByteArray} (same : a.data.toList = b.data.toList) : a = b :=
  ByteArray.ext (Array.ext' same)

theorem parts_injective {a b : Node} (same : a.parts = b.parts) : a = b := by
  cases a <;> cases b <;> simp only [parts, Prod.mk.injEq, Option.some.injEq, reduceCtorEq,
    and_false, and_true, true_and] at same
  case directory.directory => rfl
  case file.file => rw [content_ext same]
  case program.program => rw [content_ext same.1, same.2]
  case device.device => rw [same]

instance : DecidableEq Node := fun a b =>
  if same : a.parts = b.parts then .isTrue (parts_injective same)
  else .isFalse fun equal => same (congrArg parts equal)

end Node

end GameShelf
