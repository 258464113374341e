import FinderQuery.Cli.Run

namespace FinderQuery.Cli

def readAll (stream : IO.FS.Stream) : IO ByteArray := do
  let mut bytes := ByteArray.empty
  repeat
    let chunk ← stream.read 65536
    if chunk.isEmpty then break
    bytes := bytes ++ chunk
  return bytes

def FileState.ofBytes (bytes : ByteArray) : FileState :=
  match String.fromUTF8? bytes with
  | some content => .text content
  | none => .unreadable Complaint.notUtf8.text

def InputState.ofBytes (bytes : ByteArray) : InputState :=
  match String.fromUTF8? bytes with
  | some content => .text content
  | none => .unreadable .notUtf8

def InputState.ofReason (reason : String) : InputState :=
  .unreadable (if letter : reason.toList.head?.any Char.isAlpha then ⟨reason, letter⟩ else .unnamed)

def FileState.read (path : String) : IO FileState := do
  let found ← try let _ ← IO.FS.realPath path; pure true catch _ => pure false
  if found then
    try return .ofBytes (← IO.FS.readBinFile path)
    catch error => return .unreadable (toString error)
  else return .missing

def userOfRow? (row : String) : Option String :=
  match row.splitOn "\t" with
  | "Uid:" :: user :: _ => some user
  | _ => none

def homeOfRow? (user row : String) : Option String :=
  match row.splitOn ":" with
  | [_, _, number, _, _, home, _] => if number = user then some home else none
  | _ => none

def accountHome : IO (Option String) := do
  try
    let status ← IO.FS.readFile "/proc/self/status"
    let accounts ← IO.FS.readFile "/etc/passwd"
    let user := (status.splitOn "\n").findSome? userOfRow?
    return user.bind fun user => (accounts.splitOn "\n").findSome? (homeOfRow? user)
  catch _ => return none

def processSurroundings : IO (Surroundings IO) := do
  return {
    environment :=
      { config := ← IO.getEnv "AQLC_CONFIG"
        home := ← IO.getEnv "HOME"
        configHome := ← IO.getEnv "XDG_CONFIG_HOME"
        accountHome := ← accountHome }
    onTerminal := ← (← IO.getStdout).isTty
    file := FileState.read
    input := do
      try return .ofBytes (← readAll (← IO.getStdin))
      catch error => return .ofReason (toString error) }

end FinderQuery.Cli

open FinderQuery.Cli in
def main (words : List String) : IO UInt32 := do
  let outcome ← run (← processSurroundings) words
  for diagnostic in outcome.diagnostics do
    IO.eprintln diagnostic
  IO.print outcome.output
  return outcome.status.toUInt32
