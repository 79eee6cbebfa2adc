import ChatRelay.CommandLine.Run

/-!
The program: it reads the files that a command looks at, runs the command, and prints what the
run leaves behind.
-/

namespace ChatRelay.CommandLine

/-- Why a file cannot be read: what the system says with its number, or that the file is no
text. -/
def reasonOf : IO.Error → String
  | .inappropriateType _ code details | .permissionDenied _ code details =>
    details.capitalize ++ " (os error " ++ toString code ++ ")"
  | .userError _ => "stream did not contain valid UTF-8"
  | fault => toString fault

def look (path : String) : IO File := do
  try
    return .text (← IO.FS.readFile path)
  catch
    | .noFileOrDirectory .. => return .missing
    | fault => return .unreadable (reasonOf fault)

/-- A machine on which no file has been read; it has no sockets, so that nothing can be listened
on and no URL answers. -/
def bareHost (home : String) : Host where
  file := fun _ => .missing
  home := home
  listen := fun _ _ => .error "Operation not supported (os error 95)"
  get := fun _ => none

/-- The machine, with the files read that the arguments ask for. -/
def hostFor (args : List String) : IO Host := do
  let host := bareHost ((← IO.getEnv "HOME").getD ".")
  match parse args with
  | .error _ => return host
  | .ok invocation =>
    let files ← (host.sources invocation.config).mapM fun path => do
      return (path, ← look path)
    return { host with file := fun path => (files.lookup path).getD .missing }

end ChatRelay.CommandLine

open ChatRelay.CommandLine in
def main (args : List String) : IO UInt32 := do
  let outcome := run (← hostFor args) args
  for line in outcome.log do
    IO.println (line.level.name ++ " " ++ line.text)
  IO.print outcome.output
  if let some complaint := outcome.complaint then
    IO.eprintln complaint
  return outcome.code.toUInt32
