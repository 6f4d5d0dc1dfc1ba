import Workday.Json.Record
import Workday.Run
import Workday.Text.Decimal

/-!
This module contains how commands for the tracker's client are handed to someone who executes them,
one line of JSON for each, and how what came of them is handed back. A run is a function of all
responses, so it can be repeated whenever one more of them is known.
-/

namespace Workday

open Json

namespace Command

def line (command : Command) : String :=
  let words := (command.program :: command.arguments).map fun word => encode word.toList
  String.ofList ('[' :: ([','].intercalate words ++ [']']))

end Command

/--
What is handed back about a command: why it could not be started, or else its exit status and what
it has printed.
-/
structure Reply where
  status : String
  stdout : String
  stderr : String
  reason : Option String
  deriving Repr, BEq, DecidableEq, Inhabited

namespace Reply

def readField (field : String) (reply : Reply) : Reader Reply := fun cs =>
  (readString cs).map fun (value, rest) =>
    (if field = "status" then { reply with status := value }
      else if field = "stdout" then { reply with stdout := value }
      else if field = "stderr" then { reply with stderr := value }
      else { reply with reason := some value }, rest)

theorem length_lt_of_readField {field : String} {a b : Reply} {cs rest : List Char}
    (h : readField field a cs = .ok (b, rest)) : rest.length < cs.length := by
  unfold readField at h
  obtain ⟨⟨value, r⟩, hr, h⟩ := map_eq_ok_iff.1 h
  rw [← (Prod.mk.inj h).2]
  exact length_lt_of_readString hr

def schema : Schema Reply where
  name := "a reply"
  fields := ["status", "stdout", "stderr", "reason"]
  required := 0
  blank := ⟨"0", "", "", none⟩
  readField := readField
  length_lt := length_lt_of_readField

def status? (cs : List Char) : Option Int :=
  match cs with
  | '-' :: ds => if Text.isNumber ds then some (-(Text.numberValue ds : Int)) else none
  | ds => if Text.isNumber ds then some (Text.numberValue ds : Int) else none

def response (reply : Reply) : Response :=
  match reply.reason, status? reply.status.toList with
  | some reason, _ => .unstartable reason
  | none, some status => .exited status reply.stdout reply.stderr
  | none, none => .unstartable "malformed reply"

end Reply

def Response.ofLine (line : String) : Response :=
  match Reply.schema.read line.toList with
  | .ok (reply, _) => reply.response
  | .error fault => .unstartable (fault.message line)

def Tracker.replaying (responses : List Response) : Tracker where
  respond earlier _ := responses.getD earlier.length (.unstartable "no reply")

end Workday
