import ObjectTransfer.Pipe.Conversation
import ObjectTransfer.Proofs.Pipe.Accounting

/-!
# Interleavings of calls on a pipe

A call at one end of a pipe takes one step or several: a write of everything goes frame by frame,
and reading to the end read by read. Between any two steps the other end may take steps of its own.

The module introduces:

* `Pipe.WriterStep` and `Pipe.ReaderStep`: one step of a call, with what it leads to;
* `Conversation.Step` and `Conversation.Run`: either end issues a call or carries on the one that
  it has issued, in any order, with the record of the pipe's steps.

Main statements: `Conversation.Run.pipe`, the record of an interleaving is the record of a run of
the pipe, and `Conversation.issue_run`, the schedule by which calls are carried out when they are
issued one after the other is one of the interleavings.
-/

namespace ObjectTransfer

/-- What is left of a call. -/
def Attempt.rest? {call : Type} : Attempt call → Option call
  | .answered _ => none
  | .waits rest => some rest

namespace Pipe

/-- A step of a call on the writing end: its record, and the answer to the call or what is left
of it. -/
inductive WriterStep (p : Pipe) :
    WriterCall → List PipeEvent → Attempt WriterCall → Pipe → Prop
  | write {bytes : Bytes} {r : Except IoError Nat} {q : Pipe} (step : p.Step (.wrote bytes r) q) :
      WriterStep p (.write bytes) [.wrote bytes r] (.answered (.ofCount r)) q
  | writeAllNext {bytes : Bytes} {n : Nat} {q : Pipe} (left : bytes ≠ [])
      (step : p.Step (.wrote bytes (.ok n)) q) :
      WriterStep p (.writeAll bytes) [.wrote bytes (.ok n)]
        (.waits (.writeAll (bytes.drop n))) q
  | writeAllFailed {bytes : Bytes} {e : IoError} {q : Pipe} (left : bytes ≠ [])
      (step : p.Step (.wrote bytes (.error e)) q) :
      WriterStep p (.writeAll bytes) [.wrote bytes (.error e)] (.answered (.failed e)) q
  | writeAllDone : WriterStep p (.writeAll []) [] (.answered .done) p
  | flush : WriterStep p .flush [] (.answered .done) p
  | close {closing : Closing} {r : Except IoError Unit} {q : Pipe}
      (step : p.Step (.closed closing r) q) :
      WriterStep p (.close closing) [.closed closing r] (.answered (.ofUnit r)) q
  | drop {q : Pipe} (step : p.Step .writerDropped q) :
      WriterStep p .drop [.writerDropped] (.answered .done) q

/-- A step of a call on the reading end: its record, and the answer to the call or what is left
of it. -/
inductive ReaderStep (p : Pipe) :
    ReaderCall → List PipeEvent → Attempt ReaderCall → Pipe → Prop
  | read {size : Nat} {r : Except IoError Bytes} {q : Pipe} (step : p.Step (.read size r) q) :
      ReaderStep p (.read size) [.read size r] (.answered (.ofBytes r)) q
  | readAllNext {size : Nat} {pieces : List Bytes} {piece : Bytes} {q : Pipe} (more : piece ≠ [])
      (step : p.Step (.read size (.ok piece)) q) :
      ReaderStep p (.readAll size pieces) [.read size (.ok piece)]
        (.waits (.readAll size (piece :: pieces))) q
  | readAllEnded {size : Nat} {pieces : List Bytes} {q : Pipe}
      (step : p.Step (.read size (.ok [])) q) :
      ReaderStep p (.readAll size pieces) [.read size (.ok [])]
        (.answered (.all pieces.reverse.flatten none)) q
  | readAllFailed {size : Nat} {pieces : List Bytes} {e : IoError} {q : Pipe}
      (step : p.Step (.read size (.error e)) q) :
      ReaderStep p (.readAll size pieces) [.read size (.error e)]
        (.answered (.all pieces.reverse.flatten (some e))) q
  | check {r : Except IoError Unit} {q : Pipe} (step : p.Step (.checked r) q) :
      ReaderStep p .check [.checked r] (.answered (.ofUnit r)) q
  | drop {q : Pipe} (step : p.Step .readerDropped q) :
      ReaderStep p .drop [.readerDropped] (.answered .done) q

/-- A step of a call on the writing end is at most one step of the pipe. -/
theorem WriterStep.run {p q : Pipe} {call : WriterCall} {events : List PipeEvent}
    {attempt : Attempt WriterCall} (h : p.WriterStep call events attempt q) : p.Run events q := by
  cases h with
  | write step | writeAllNext _ step | writeAllFailed _ step | close step | drop step =>
    exact step.run
  | writeAllDone | flush => exact .refl p

/-- A step of a call on the reading end is a step of the pipe. -/
theorem ReaderStep.run {p q : Pipe} {call : ReaderCall} {events : List PipeEvent}
    {attempt : Attempt ReaderCall} (h : p.ReaderStep call events attempt q) : p.Run events q := by
  cases h with
  | read step | readAllNext _ step | readAllEnded step | readAllFailed step | check step
  | drop step => exact step.run

end Pipe

namespace Conversation

/-- A pipe at whose ends nothing is going on. -/
def fresh (capacity : Nat) : Conversation :=
  { pipe := Pipe.new capacity }

/-- A step at one of the two ends: it issues a call, or carries on the one that it has issued. An
end that has been closed or dropped takes no more calls. -/
inductive Step (c : Conversation) : List PipeEvent → Conversation → Prop
  | issueWriter (call : WriterCall) (idle : c.writerCall = none)
      (isOpen : c.pipe.writerOpen = true) : Step c [] { c with writerCall := some call }
  | issueReader (call : ReaderCall) (idle : c.readerCall = none)
      (alive : c.pipe.readerAlive = true) : Step c [] { c with readerCall := some call }
  | writer {call : WriterCall} {events : List PipeEvent} {attempt : Attempt WriterCall} {q : Pipe}
      (busy : c.writerCall = some call) (step : c.pipe.WriterStep call events attempt q) :
      Step c events { c with pipe := q, writerCall := attempt.rest? }
  | reader {call : ReaderCall} {events : List PipeEvent} {attempt : Attempt ReaderCall} {q : Pipe}
      (busy : c.readerCall = some call) (step : c.pipe.ReaderStep call events attempt q) :
      Step c events { c with pipe := q, readerCall := attempt.rest? }

/-- An interleaving of steps at the two ends, with the record of the pipe. -/
inductive Run : Conversation → List PipeEvent → Conversation → Prop
  | refl (c : Conversation) : Run c [] c
  | head {c d e : Conversation} {first rest : List PipeEvent} :
      Step c first d → Run d rest e → Run c (first ++ rest) e

/-- One interleaving after another. -/
theorem Run.append {c d e : Conversation} {before after : List PipeEvent} (first : Run c before d)
    (second : Run d after e) : Run c (before ++ after) e := by
  induction first with
  | refl => exact second
  | head step _ ih =>
    rw [List.append_assoc]
    exact .head step (ih second)

/-- A single step as an interleaving. -/
theorem Step.run {c d : Conversation} {events : List PipeEvent} (step : Step c events d) :
    Run c events d := by
  have h := Run.head step (.refl d)
  rwa [List.append_nil] at h

/-- The pipe takes the steps that are recorded. -/
theorem Run.pipe {c d : Conversation} {events : List PipeEvent} (run : Run c events d) :
    c.pipe.Run events d.pipe := by
  induction run with
  | refl => exact .refl _
  | head step _ ih =>
    cases step with
    | issueWriter | issueReader => exact ih
    | writer _ step => exact step.run.append ih
    | reader _ step => exact step.run.append ih

/-! ## Calls that are issued one after the other -/

/-- An end with a call under way is there. -/
structure Manned (c : Conversation) : Prop where
  writer : ∀ call, c.writerCall = some call → c.pipe.writerOpen = true
  reader : ∀ call, c.readerCall = some call → c.pipe.readerAlive = true

/-- The conversation after an attempt at the writer's call. -/
def afterWriter (c : Conversation) (r : Attempt WriterCall × Pipe) : Conversation :=
  { c with pipe := r.2, writerCall := r.1.rest? }

/-- The conversation after an attempt at the reader's call. -/
def afterReader (c : Conversation) (r : Attempt ReaderCall × Pipe) : Conversation :=
  { c with pipe := r.2, readerCall := r.1.rest? }

/-- Some interleaving leads from one manned conversation to another. -/
def Leads (c d : Conversation) : Prop :=
  ∃ events, c.Run events d ∧ d.Manned

theorem Leads.refl {c : Conversation} (h : c.Manned) : c.Leads c :=
  ⟨[], .refl c, h⟩

theorem Leads.trans {c d e : Conversation} (first : c.Leads d) (second : d.Leads e) :
    c.Leads e := by
  obtain ⟨before, run, -⟩ := first
  obtain ⟨after, run', h⟩ := second
  exact ⟨before ++ after, run.append run', h⟩

/-- A step of the writer's call that leaves the writer in place, if the call is not finished. -/
private theorem leads_of_writerStep {c : Conversation} (h : c.Manned) {call : WriterCall}
    (busy : c.writerCall = some call) {events : List PipeEvent} {attempt : Attempt WriterCall}
    {q : Pipe} (step : c.pipe.WriterStep call events attempt q)
    (stays : attempt.rest? ≠ none → q.writerOpen = true)
    (alive : q.readerAlive = c.pipe.readerAlive) : c.Leads (c.afterWriter (attempt, q)) := by
  refine ⟨events, (Step.writer busy step).run, ?_, ?_⟩
  · intro call' hcall'
    exact stays (by simp_all [afterWriter])
  · intro call' hcall'
    exact alive.trans (h.reader call' hcall')

/-- A step of the reader's call that leaves the reader in place, if the call is not finished. -/
private theorem leads_of_readerStep {c : Conversation} (h : c.Manned) {call : ReaderCall}
    (busy : c.readerCall = some call) {events : List PipeEvent} {attempt : Attempt ReaderCall}
    {q : Pipe} (step : c.pipe.ReaderStep call events attempt q)
    (stays : attempt.rest? ≠ none → q.readerAlive = true)
    (isOpen : q.writerOpen = c.pipe.writerOpen) : c.Leads (c.afterReader (attempt, q)) := by
  refine ⟨events, (Step.reader busy step).run, ?_, ?_⟩
  · intro call' hcall'
    exact isOpen.trans (h.writer call' hcall')
  · intro call' hcall'
    exact stays (by simp_all [afterReader])

/-- An end that waits stays as it is. -/
private theorem leads_of_writer_waits {c : Conversation} (h : c.Manned) {call : WriterCall}
    (busy : c.writerCall = some call) : c.Leads (c.afterWriter (.waits call, c.pipe)) := by
  have hsame : c.afterWriter (.waits call, c.pipe) = c := by
    simp only [afterWriter, Attempt.rest?, ← busy]
  rw [hsame]
  exact .refl h

private theorem leads_of_reader_waits {c : Conversation} (h : c.Manned) {call : ReaderCall}
    (busy : c.readerCall = some call) : c.Leads (c.afterReader (.waits call, c.pipe)) := by
  have hsame : c.afterReader (.waits call, c.pipe) = c := by
    simp only [afterReader, Attempt.rest?, ← busy]
  rw [hsame]
  exact .refl h

/-- Writing everything as far as it goes is an interleaving in which only the writer acts. -/
private theorem leads_writeAll {p : Pipe} {frames : Nat} {bytes : Bytes} {c : Conversation}
    (h : c.Manned) (hp : c.pipe = p) (busy : c.writerCall = some (.writeAll bytes)) :
    c.Leads (c.afterWriter (p.writeAll frames bytes)) := by
  fun_induction Pipe.writeAll p frames bytes generalizing c with
  -- nothing is left to write
  | case1 p frames =>
    subst hp
    exact leads_of_writerStep h busy .writeAllDone (by simp [Attempt.rest?]) rfl
  -- there are bytes left, but no turns
  | case2 p bytes hne =>
    subst hp
    exact leads_of_writer_waits h busy
  -- the queue is full
  | case3 p frames bytes hne hw =>
    subst hp
    exact leads_of_writer_waits h busy
  -- a frame is sent, and the rest of the bytes follow from the pipe behind it
  | case4 p frames bytes hne hw n q hwrite ih =>
    subst hp
    have isOpen := h.writer _ busy
    have step := Pipe.Step.write bytes isOpen (by simpa using hw)
    have hopen := Pipe.writerOpen_write c.pipe bytes
    have halive := Pipe.readerAlive_write c.pipe bytes
    rw [hwrite] at step hopen halive
    have first := leads_of_writerStep h busy (.writeAllNext (by simpa using hne) step)
      (fun _ => hopen.trans isOpen) halive
    exact first.trans (ih first.choose_spec.2 rfl rfl)
  -- the reader has gone
  | case5 p frames bytes hne hw e q hwrite =>
    subst hp
    have step := Pipe.Step.write bytes (h.writer _ busy) (by simpa using hw)
    have halive := Pipe.readerAlive_write c.pipe bytes
    rw [hwrite] at step halive
    exact leads_of_writerStep h busy (.writeAllFailed (by simpa using hne) step)
      (by simp [Attempt.rest?]) halive

/-- Reading to the end as far as it goes is an interleaving in which only the reader acts. -/
private theorem leads_readAll {p : Pipe} {size reads : Nat} {pieces : List Bytes}
    {c : Conversation} (h : c.Manned) (hp : c.pipe = p)
    (busy : c.readerCall = some (.readAll size pieces)) :
    c.Leads (c.afterReader (p.readAll size reads pieces)) := by
  fun_induction Pipe.readAll p size reads pieces generalizing c with
  -- there are no turns left
  | case1 p pieces =>
    subst hp
    exact leads_of_reader_waits h busy
  -- nothing has come yet
  | case2 p reads pieces hw =>
    subst hp
    exact leads_of_reader_waits h busy
  -- the writer has closed cleanly
  | case3 p reads pieces hw q hread =>
    subst hp
    have step := Pipe.Step.read size (h.reader _ busy) (by simpa using hw)
    have hopen := Pipe.writerOpen_read c.pipe size
    rw [hread] at step hopen
    exact leads_of_readerStep h busy (.readAllEnded step) (by simp [Attempt.rest?]) hopen
  -- a piece has come, and reading goes on behind it
  | case4 p reads pieces hw piece q hne hread ih =>
    subst hp
    have alive := h.reader _ busy
    have step := Pipe.Step.read size alive (by simpa using hw)
    have hopen := Pipe.writerOpen_read c.pipe size
    have halive := Pipe.readerAlive_read c.pipe size
    rw [hread] at step hopen halive
    have first := leads_of_readerStep h busy (.readAllNext (by simpa using hne) step)
      (fun _ => halive.trans alive) hopen
    exact first.trans (ih first.choose_spec.2 rfl rfl)
  -- the writer has left otherwise
  | case5 p reads pieces hw e q hread =>
    subst hp
    have step := Pipe.Step.read size (h.reader _ busy) (by simpa using hw)
    have hopen := Pipe.writerOpen_read c.pipe size
    rw [hread] at step hopen
    exact leads_of_readerStep h busy (.readAllFailed step) (by simp [Attempt.rest?]) hopen

/-- Carrying the writer's call as far as it goes is an interleaving. -/
private theorem leads_attemptWriter {c : Conversation} (h : c.Manned) {call : WriterCall}
    (busy : c.writerCall = some call) : c.Leads (c.afterWriter (c.pipe.attemptWriter call)) := by
  have isOpen := h.writer _ busy
  cases call with
  | write bytes =>
    rw [Pipe.attemptWriter]
    split
    · exact leads_of_writer_waits h busy
    · next hw =>
      exact leads_of_writerStep h busy (.write (.write bytes isOpen (by simpa using hw)))
        (by simp [Attempt.rest?]) (Pipe.readerAlive_write _ _)
  | writeAll bytes => exact leads_writeAll h rfl busy
  | flush => exact leads_of_writerStep h busy .flush (by simp [Attempt.rest?]) rfl
  | close closing =>
    rw [Pipe.attemptWriter]
    split
    · exact leads_of_writer_waits h busy
    · next hw =>
      exact leads_of_writerStep h busy (.close (.close closing isOpen (by simpa using hw)))
        (by simp [Attempt.rest?]) (Pipe.readerAlive_close _ _)
  | drop =>
    exact leads_of_writerStep h busy (.drop (.dropWriter isOpen)) (by simp [Attempt.rest?]) rfl

/-- Carrying the reader's call as far as it goes is an interleaving. -/
private theorem leads_attemptReader {c : Conversation} (h : c.Manned) {call : ReaderCall}
    (busy : c.readerCall = some call) : c.Leads (c.afterReader (c.pipe.attemptReader call)) := by
  have alive := h.reader _ busy
  cases call with
  | read size =>
    rw [Pipe.attemptReader]
    split
    · exact leads_of_reader_waits h busy
    · next hw =>
      exact leads_of_readerStep h busy (.read (.read size alive (by simpa using hw)))
        (by simp [Attempt.rest?]) (Pipe.writerOpen_read _ _)
  | readAll size pieces => exact leads_readAll h rfl busy
  | check =>
    have hopen : c.pipe.check.2.writerOpen = c.pipe.writerOpen := by
      rw [Pipe.check_snd, Pipe.writerOpen_fetch]
    exact leads_of_readerStep h busy (.check (.check alive)) (by simp [Attempt.rest?]) hopen
  | drop =>
    exact leads_of_readerStep h busy (.drop (.dropReader alive)) (by simp [Attempt.rest?]) rfl

theorem leads_resumeWriter {c : Conversation} (h : c.Manned) : c.Leads c.resumeWriter.2 := by
  unfold resumeWriter
  split
  · exact .refl h
  · next call busy =>
    have hleads := leads_attemptWriter h busy
    split <;> next hattempt => rwa [hattempt] at hleads

theorem leads_resumeReader {c : Conversation} (h : c.Manned) : c.Leads c.resumeReader.2 := by
  unfold resumeReader
  split
  · exact .refl h
  · next call busy =>
    have hleads := leads_attemptReader h busy
    split <;> next hattempt => rwa [hattempt] at hleads

theorem leads_settle (rounds : Nat) {c : Conversation} (h : c.Manned) :
    c.Leads (settle rounds c).2.2 := by
  induction rounds generalizing c with
  | zero => exact .refl h
  | succ rounds ih =>
    have first := leads_resumeWriter h
    have second := leads_resumeReader first.choose_spec.2
    exact first.trans (second.trans (ih second.choose_spec.2))

/-- Issuing a call, and carrying on all that waits as far as it goes, is one of the
interleavings. -/
theorem issue_run {c d : Conversation} (h : c.Manned) {call : PipeCall} {turn : Turn}
    (issued : c.issue call = .ok (turn, d)) : ∃ events, c.Run events d ∧ d.Manned := by
  cases call with
  | ofWriter call =>
    simp only [issue] at issued
    split at issued <;> try cases issued
    next idle =>
      split at issued <;> cases issued
      next isOpen =>
        have hidle : c.writerCall = none := by simpa using idle
        have hopen : c.pipe.writerOpen = true := by simpa using isOpen
        -- the call is noted first; then everything is carried on that can be
        have begun : c.Leads { c with writerCall := some call } :=
          ⟨[], (Step.issueWriter call hidle hopen).run, fun _ _ => hopen, h.reader⟩
        exact begun.trans (leads_settle _ begun.choose_spec.2)
  | ofReader call =>
    simp only [issue] at issued
    split at issued <;> try cases issued
    next idle =>
      split at issued <;> cases issued
      next alive =>
        have hidle : c.readerCall = none := by simpa using idle
        have halive : c.pipe.readerAlive = true := by simpa using alive
        have begun : c.Leads { c with readerCall := some call } :=
          ⟨[], (Step.issueReader call hidle halive).run, h.writer, fun _ _ => halive⟩
        exact begun.trans (leads_settle _ begun.choose_spec.2)

/-- A fresh conversation is manned: nothing is under way. -/
theorem manned_fresh (capacity : Nat) : (fresh capacity).Manned :=
  ⟨nofun, nofun⟩

end Conversation

end ObjectTransfer
