import GameShelf.Files.FileTree

namespace GameShelf.Machine

def directories : List (List String) :=
  [["bin"], ["boot"], ["dev"], ["dev", "fd"], ["etc"], ["home"], ["lib"], ["media"], ["mnt"],
    ["opt"], ["proc"], ["root"], ["run"], ["sbin"], ["srv"], ["sys"], ["tmp"], ["usr"],
    ["usr", "bin"], ["usr", "lib"], ["usr", "local"], ["usr", "local", "bin"], ["usr", "sbin"],
    ["usr", "share"], ["var"], ["var", "lib"], ["var", "log"], ["var", "tmp"]]

/-- The devices. The standard streams have numbers besides their names. -/
def devices : List (List String × Device) :=
  [(["null"], .null), (["full"], .full), (["stdin"], .input), (["stdout"], .output),
    (["stderr"], .errors), (["fd", "0"], .input), (["fd", "1"], .output), (["fd", "2"], .errors)]

/-- The beginning of machine code, which is no text. -/
def code : ByteArray :=
  ⟨#[0x7f, 0x45, 0x4c, 0x46, 0xff]⟩

/-- The programs that only succeed or fail. -/
def programs : List (String × Bool) :=
  [("true", true), ("false", false)]

/-- Whether the program at a path succeeds, by its name. -/
def programOf? (path : String) : Option Bool :=
  (Path.components path).getLast?.bind fun name => programs.lookup name

/-- Texts by which a machine knows itself and its users. -/
def texts : List (String × String) :=
  [("hostname", "machine\n"), ("hosts", "127.0.0.1\tlocalhost\n"),
    ("passwd", "root:x:0:0:root:/root:/bin/sh\n")]

/-- The nodes with their places. -/
def nodes : List (List String × Node) :=
  directories.map (·, .directory) ++
    devices.map (fun (names, kind) => ("dev" :: names, .device kind)) ++
    ([["bin"], ["usr", "bin"]].flatMap fun directory =>
      programs.map fun (name, succeeds) => (directory ++ [name], .program code succeeds)) ++
    texts.map fun (name, text) => (["etc", name], .file text.toUTF8)

/-- The files of the machine, seen from a directory that is new on it. -/
def files (current : List String) : FileTree :=
  ⟨nodes ++ [(current, .directory)], current⟩

end GameShelf.Machine
