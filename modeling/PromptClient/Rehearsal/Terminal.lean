import PromptClient.Rehearsal.Server
import PromptClient.Terminal.Run

/-! # Rehearsing a terminal

Commands at a terminal before a scripted server. Pauses take no time here.
-/

namespace PromptClient

/-- What remains of a command that has been carried out. -/
structure Transcript where
  lines : List Line
  status : ExitStatus
  requests : List ReceivedRequest

namespace Server

/-- Answer what an attempt waits for: the end of a pause comes by itself. -/
def answer (server : Server) (place : Workplace) :
    Attempt → Exchange × List ReceivedRequest × Server
  | .working errand =>
      match errand.event? place.desk.policy with
      | some (.call request) => server.call place.backend request
      | _ => (.answered .rested, [], server)
  | _ => (.answered .rested, [], server)

/-- See a command through to its end. The number of answers bounds the play. -/
def serve : (answers : Nat) → Server → Turn → Transcript × Workplace × Server
  | 0, server, turn => (⟨turn.lines, .failure, []⟩, turn.workplace, server)
  | answers + 1, server, turn =>
      match turn.stand with
      | .ended status => (⟨turn.lines, status, []⟩, turn.workplace, server)
      | .waiting attempt =>
          let (exchange, requests, after) := server.answer turn.workplace attempt
          let next := match exchange with
            | .answered reply => turn.workplace.proceed attempt reply
            | .interrupted => turn.workplace.interrupt attempt
          let (rest, place, last) := serve answers after next
          (⟨turn.lines ++ rest.lines, rest.status, requests ++ rest.requests⟩, place, last)

/-- Enough answers for every line that the server has left, with a pause after each. -/
def answersLeft (server : Server) : Nat :=
  2 * server.lines.length + 6

def perform (server : Server) (place : Workplace) (command : Command) :
    Transcript × Workplace × Server :=
  serve server.answersLeft server (place.perform command)

/-- A run of the program with those arguments: what remains of it, and the files and
the server afterwards. -/
def run (server : Server) (world : World) (arguments : List String) :
    Transcript × FileTree × Server :=
  match world.start arguments with
  | .error (files, lines, status) => (⟨lines, status, []⟩, files, server)
  | .ok (place, command) =>
      let (transcript, after, last) := server.perform place command
      (transcript, after.files, last)

end Server

end PromptClient
