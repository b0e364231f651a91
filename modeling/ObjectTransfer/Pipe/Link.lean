import ObjectTransfer.Pipe.Conversation

/-!
# Links

A pipe between a transfer and its caller, seen from the transfer: the calls that the caller has
issued and that are not finished are kept with the pipe, and are carried on whenever the pipe
allows it. A caller issues its calls in order and holds one end only.
-/

namespace ObjectTransfer

/-- A pipe with what the caller at its other end still wants from it. -/
structure Link where
  pipe : Pipe
  /-- What the caller has still to do if it writes. -/
  writing : List WriterCall := []
  /-- What the caller has still to do if it reads. -/
  reading : List ReaderCall := []
  /-- The answers to finished calls, the last first. -/
  answers : List CallAnswer := []

namespace Link

/-- Carries calls of a writing caller on, as far as the pipe allows. -/
def carryWriting (p : Pipe) (answers : List CallAnswer) : List WriterCall → Link
  | [] => { pipe := p, answers }
  | call :: rest =>
    match p.attemptWriter call with
    | (.answered a, p) => carryWriting p (a :: answers) rest
    | (.waits left, p) => { pipe := p, writing := left :: rest, answers }

/-- Carries calls of a reading caller on, as far as the pipe allows. -/
def carryReading (p : Pipe) (answers : List CallAnswer) : List ReaderCall → Link
  | [] => { pipe := p, answers }
  | call :: rest =>
    match p.attemptReader call with
    | (.answered a, p) => carryReading p (a :: answers) rest
    | (.waits left, p) => { pipe := p, reading := left :: rest, answers }

/-- Lets the caller carry its calls on. -/
def resume (l : Link) : Link :=
  let wrote := carryWriting l.pipe l.answers l.writing
  let read := carryReading wrote.pipe wrote.answers l.reading
  { read with writing := wrote.writing }

/-- The bytes that a call has still to write. -/
def callSize : WriterCall → Nat
  | .write bytes | .writeAll bytes => bytes.length
  | _ => 0

/-- The bytes that calls of the caller have still to write. -/
def unwritten (l : Link) : Nat :=
  l.writing.foldl (fun n call => n + callSize call) 0

/-- One more call of the caller. -/
def issue (l : Link) : PipeCall → Link
  | .ofWriter call => { l with writing := l.writing ++ [call] }
  | .ofReader call => { l with reading := l.reading ++ [call] }

/-- Takes the answers that have come, in their order. -/
def collect (l : Link) : List CallAnswer × Link :=
  (l.answers.reverse, { l with answers := [] })

end Link

end ObjectTransfer
