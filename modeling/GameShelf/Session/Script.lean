import GameShelf.Files.FileTree
import GameShelf.Session.Basic

namespace GameShelf

/-- What a line led to. -/
inductive LineResult
  | shown (text : String)
  | misread (error : CommandError)
  | failed (error : ShortlistError)
  | leave
deriving DecidableEq

namespace Session

/-- Answers a command, and writes the file it asks for. -/
def run (session : Session) (style : Style) (files : FileTree) (command : Command) :
    LineResult × Session × FileTree :=
  match session.answer style command with
  | .shown session text => (.shown text, session, files)
  | .failed session error => (.failed error, session, files)
  | .save path content text =>
    match files.write path content.toUTF8 with
    | .error error => (.failed (.saveFailed path error.message), session, files)
    | .ok files => (.shown text, session, files)
  | .leave => (.leave, session, files)

/-- Reads a line and answers it. -/
def runLine (session : Session) (style : Style) (files : FileTree) (line : String) :
    LineResult × Session × FileTree :=
  match Command.parse line with
  | .error error => (.misread error, session, files)
  | .ok command => session.run style files command

/-- Runs lines up to the first that leaves. Each result comes with the session after it. -/
def runScript (session : Session) (style : Style) (files : FileTree) :
    List String → List (LineResult × Session) × FileTree
  | [] => ([], files)
  | line :: lines =>
    match session.runLine style files line with
    | (.leave, session, files) => ([(.leave, session)], files)
    | (result, session, files) =>
      let (results, files) := session.runScript style files lines
      ((result, session) :: results, files)

end Session

end GameShelf
