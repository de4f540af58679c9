/-
This file serves one client over standard input and output.
-/

import DocBlocks.CommandLine
import DocBlocks.Protocol.Wire
import DocBlocks.Session

open DocBlocks

namespace DocBlocks.Main

/-- Reads a header and says how long the body is. At the end of the input there is none. -/
partial def readHeader (input : IO.FS.Stream) (length : Option Nat) : IO (Option Nat) := do
  let line ← input.getLine
  if line.isEmpty then return none
  if Protocol.endsHeader line then return some (length.getD 0)
  readHeader input (Protocol.announcedLength? line <|> length)

partial def readBytes (input : IO.FS.Stream) (count : Nat) (read : ByteArray) : IO ByteArray := do
  if count ≤ read.size then return read
  let more ← input.read (count - read.size).toUSize
  if more.isEmpty then return read
  readBytes input count (read ++ more)

def send (output : IO.FS.Stream) (body : Json) : IO Unit := do
  output.putStr (Protocol.framed body)
  output.flush

/-- Sends what a step answers. -/
def sendStep (output : IO.FS.Stream) (message : Protocol.Message) (step : Session.Step) : IO Unit := do
  for notice in step.notices do
    send output (Protocol.noticeJson notice)
  match message.id, step.outcome with
  | some id, .done (some reply) => send output (Protocol.replyJson id reply)
  | _, _ => return ()

/-- Answers messages until the input ends or the client says goodbye. -/
partial def serve (input output : IO.FS.Stream) (session : Session) (time : Nat) : IO Unit := do
  let some length ← readHeader input none | return ()
  let bytes ← readBytes input length ByteArray.empty
  let now ← IO.monoMsNow
  let session := session.wait (now - time)
  match (String.fromUTF8? bytes).map Protocol.receive with
  | none | some .malformed =>
    send output Protocol.malformedJson
    serve input output session now
  | some .invalid =>
    send output Protocol.invalidJson
    serve input output session now
  | some .answer => serve input output session now
  | some (.message message) =>
    let step := session.receive message
    sendStep output message step
    if step.session.lifecycle = .exited then return ()
    serve input output step.session now

end DocBlocks.Main

def main (arguments : List String) : IO UInt32 := do
  match CommandLine.parse arguments with
  | .ok .help =>
    IO.println CommandLine.helpText
    return 0
  | .ok .version =>
    IO.println CommandLine.versionText
    return 0
  | .ok .serve =>
    DocBlocks.Main.serve (← IO.getStdin) (← IO.getStdout) (Session.new Registry.builtin)
      (← IO.monoMsNow)
    return 0
  | .error error =>
    IO.eprintln error.message
    return 2
