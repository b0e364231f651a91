import ObjectTransfer.Proofs.Transfer.Performance
import ObjectTransfer.Transfer.LocalHost
import ObjectTransfer.Transfer.Upload

/-!
# The order of a commit

An upload makes six requests, each only after the one before it has been answered well, and ends
with the first failure that it meets. This module shows it of the upload's steps alone, whatever
answers they get: nothing is assumed about the device, the catalog, the pipe or the disk.

* `firstFailure? events`: the ending that the first failure in a record forces.
* `Replacement.script`: the six requests with the answers by which an upload succeeds.
* `Follows events left script`: the record follows the script as far as it goes.

Main statement: `Program.upload_follows`.
-/

namespace ObjectTransfer

/-! ## Failures -/

/-- The ending that an answer forces unless it is a value. -/
def Outcome.failure? {ε α : Type} (wrap : ε → TransferError) : Outcome ε α → Option Ending
  | ok _ => none
  | error e => some (.error (wrap e))
  | panic p => some (.panic p)

/-- The ending that an answer of the device or the catalog forces, if it is a failure. -/
def Call.failure? : (c : Call) → c.Answer → Option Ending
  | .stream _ _ => fun _ => none
  | .thumbnail _ _ | .info _ _ | .delete _ _ | .create _ _ _ => Outcome.failure? .device
  | .parent _ | .update _ _ _ _ _ => Outcome.failure? .catalog

/-- The ending that a step of an upload forces, if it fails. That a staging file cannot be removed
is not counted as a failure. -/
def TransferEvent.failure? : TransferEvent → Option Ending
  | pipe (.read _ (.error e)) | pipe (.checked (.error e)) => some (.error (.channel e))
  | saved _ (.error e) => some (.error (.staging e))
  | staged (.prepare _) (.error e) | staged (.measure _) (.error e)
  | staged (.openSource _) (.error e) => some (.error (.staging e))
  | answered c a => c.failure? a
  | _ => none

/-- The ending that the first failure in a record forces. -/
def firstFailure? (events : List TransferEvent) : Option Ending :=
  events.findSome? TransferEvent.failure?

@[simp]
theorem firstFailure?_nil : firstFailure? [] = none := rfl

@[simp]
theorem firstFailure?_cons (e : TransferEvent) (rest : List TransferEvent) :
    firstFailure? (e :: rest) = e.failure?.or (firstFailure? rest) := by
  cases h : e.failure? <;> simp [firstFailure?, h]

/-- What the caller does is no failure of the upload. -/
@[simp]
theorem firstFailure?_ownEvents (events : List TransferEvent) :
    firstFailure? (ownEvents events) = firstFailure? events := by
  induction events with
  | nil => rfl
  | cons e rest ih =>
    rcases hown : e.isOwn with _ | _
    · obtain ⟨_, rfl⟩ : ∃ step, e = .caller step := by cases e <;> simp_all [TransferEvent.isOwn]
      simpa [ownEvents, List.filter_cons, hown, TransferEvent.failure?] using ih
    · rw [ownEvents, List.filter_cons_of_pos hown, firstFailure?_cons, firstFailure?_cons, ← ih]
      rfl

@[simp]
theorem TransferEvent.failure?_called (c : Call) : (called c).failure? = none := rfl

@[simp]
theorem TransferEvent.failure?_answered (c : Call) (a : c.Answer) :
    (answered c a).failure? = c.failure? a := rfl

theorem Outcome.failure?_ne_ok {ε α : Type} (wrap : ε → TransferError) (o : Outcome ε α) :
    o.failure? wrap ≠ some (.ok ()) := by
  cases o <;> simp [failure?]

/-- A failure of the device or the catalog is not a success. -/
theorem Call.failure?_ne_ok (c : Call) (a : c.Answer) : c.failure? a ≠ some (.ok ()) := by
  cases c with
  | stream => exact nofun
  | thumbnail | info | delete | create | parent | update => exact Outcome.failure?_ne_ok _ a

/-- A failure is not a success. -/
theorem TransferEvent.failure?_ne_ok (e : TransferEvent) : e.failure? ≠ some (.ok ()) := by
  unfold failure?
  split
  case h_7 c a => exact c.failure?_ne_ok a
  all_goals exact nofun

/-! ## Following a script -/

/-- What an upload learns on its way. -/
structure Replacement where
  /-- The info of the placeholder. -/
  placeholder : ObjectInfo
  /-- The number of bytes that were staged. -/
  size : Nat
  /-- The staged bytes. -/
  source : Source
  /-- The handle of the new object. -/
  handle : UInt32
  /-- The info of the new object. -/
  info : ObjectInfo
  /-- The parent of the document. -/
  parent : Identifier

/-- The requests of an upload in their order, with the answers by which it succeeds. -/
def Replacement.script (r : Replacement) (i : Identifier) (operations : List OperationCode) :
    List Exchange :=
  [⟨.info i.device i.handle, .ok r.placeholder⟩,
    ⟨.delete i.device i.handle, .ok ()⟩,
    ⟨.create i.device (r.placeholder.withSize (UInt64.ofNat r.size)) r.source, .ok r.handle⟩,
    ⟨.info i.device r.handle, .ok r.info⟩,
    ⟨.parent i.document, .ok r.parent⟩,
    ⟨.update i.document i.device r.parent.document operations r.info, .ok ()⟩]

/-- The transfer ends in the given way, and waits for nothing before. -/
inductive Program.Concludes : Program → Ending → Prop
  | done (e : Ending) : Concludes (.done e) e
  | stage {request : StagingRequest} {next : request.Answer → Program} {e : Ending}
      (ends : ∀ a, Concludes (next a) e) : Concludes (.stage request next) e
  | note {rest : Program} {e : Ending} (n : Notice) (ends : Concludes rest e) :
      Concludes (.note n rest) e

/-- The record of a transfer, with what is left of it, follows a script of requests and their
answers as far as it goes. -/
structure Follows (events : List TransferEvent) (left : Program) (script : List Exchange) :
    Prop where
  /-- The requests made are the first of the script. -/
  calls : callsOf events <+: script.map Exchange.call
  /-- A request is made only after all requests before it were answered as in the script. -/
  earlier : ∀ before c after, events = before ++ .called c :: after →
    exchangesOf before = script.take (callsOf before).length
  /-- The transfer ends with the first failure. -/
  ending : ∀ e, left = .done e → e = (firstFailure? events).getD (.ok ())
  /-- It ends well exactly if the whole script has been gone through. -/
  success : ∀ e, left = .done e → (e = .ok () ↔ exchangesOf events = script)
  /-- Behind the script it ends well without waiting any more. -/
  finishes : exchangesOf events = script → left.Concludes (.ok ())

/-- Nothing is requested any more, nothing fails, and the transfer ends in the given way. -/
structure Quiet (events : List TransferEvent) (left : Program) (ending : Ending) : Prop where
  calls : callsOf events = []
  exchanges : exchangesOf events = []
  failure : firstFailure? events = none
  ending : ∀ e, left = .done e → e = ending

/-- Whether a step is neither a request, nor an answer to one, nor a failure. -/
structure TransferEvent.IsSilent (e : TransferEvent) : Prop where
  call : e.call? = none
  exchange : e.exchange? = none
  failure : e.failure? = none

namespace Follows

variable {events rest : List TransferEvent} {left : Program} {script : List Exchange}

/-- A record with a request in it is not one without requests. -/
theorem callsOf_ne_nil {before after : List TransferEvent} {c : Call}
    (h : events = before ++ .called c :: after) : callsOf events ≠ [] := by
  simp [h]

/-- A transfer that has not ended and made no request follows any script. -/
theorem of_nil (h : ∀ e, left ≠ .done e) (hscript : script ≠ []) : Follows [] left script where
  calls := List.nil_prefix
  earlier := by simp
  ending e he := absurd he (h e)
  success e he := absurd he (h e)
  finishes heq := absurd heq.symm hscript

/-- A silent step changes nothing. -/
theorem silent {e : TransferEvent} (he : e.IsSilent) (h : Follows rest left script) :
    Follows (e :: rest) left script where
  calls := by simpa [he.call] using h.calls
  earlier before c after heq := by
    rcases before with _ | ⟨first, before⟩
    · obtain ⟨rfl, -⟩ := List.cons.inj heq
      exact absurd he.call (by simp)
    · obtain ⟨rfl, hrest⟩ := List.cons.inj heq
      simpa [he.call, he.exchange] using h.earlier before c after hrest
  ending e' he' := by simpa [he.failure] using h.ending e' he'
  success e' he' := by simpa [he.exchange] using h.success e' he'
  finishes heq := h.finishes (by simpa [he.exchange] using heq)

/-- Silent steps change nothing. -/
theorem silent_append {first : List TransferEvent} (hfirst : ∀ e ∈ first, e.IsSilent)
    (h : Follows rest left script) : Follows (first ++ rest) left script := by
  induction first with
  | nil => exact h
  | cons e first ih =>
    exact .silent (hfirst e (by simp)) (ih fun e' he' => hfirst e' (by simp [he']))

/-- A failure that is no answer ends the script before its next request. -/
theorem failed {e : TransferEvent} {ending : Ending} (hcall : e.call? = none)
    (hexchange : e.exchange? = none) (hfail : e.failure? = some ending)
    (h : Quiet rest left ending) (hscript : script ≠ []) : Follows (e :: rest) left script where
  calls := by simp [hcall, h.calls]
  earlier before c after heq := absurd (by simp [hcall, h.calls]) (callsOf_ne_nil heq)
  ending e' he' := by simp [h.ending e' he', hfail]
  success e' he' := by
    have hne : ending ≠ .ok () := fun heq => e.failure?_ne_ok (heq ▸ hfail)
    simp [h.ending e' he', hne, hexchange, h.exchanges, hscript.symm]
  finishes heq := by
    simp only [exchangesOf_cons, hexchange, h.exchanges] at heq
    exact absurd heq.symm hscript

/-- A request that waits for its answer. -/
theorem asked {c : Call} {a : c.Answer} (h : ∀ e, left ≠ .done e) :
    Follows [.called c] left (⟨c, a⟩ :: script) where
  calls := by simp
  earlier before c' after heq := by
    rcases before with _ | ⟨first, before⟩
    · rfl
    · simp at heq
  ending e he := absurd he (h e)
  success e he := absurd he (h e)
  finishes heq := by simp at heq

/-- A request that is answered as in the script, and what follows it. -/
theorem answered {c : Call} {a : c.Answer} (ha : c.failure? a = none)
    (h : Follows rest left script) :
    Follows (.called c :: .answered c a :: rest) left (⟨c, a⟩ :: script) where
  calls := by simpa using h.calls
  earlier before c' after heq := by
    rcases before with _ | ⟨first, _ | ⟨second, before⟩⟩
    · rfl
    · simp at heq
    · simp only [List.cons_append, List.cons.injEq] at heq
      obtain ⟨rfl, rfl, heq⟩ := heq
      simpa using h.earlier before c' after heq
  ending e he := by simpa [ha] using h.ending e he
  success e he := by simpa using h.success e he
  finishes heq := h.finishes (by simpa using heq)

/-- A request that is refused ends the script. -/
theorem refused {c : Call} {a expected : c.Answer} {ending : Ending}
    (ha : c.failure? a = some ending) (hexpected : c.failure? expected = none)
    (h : Quiet rest left ending) :
    Follows (.called c :: .answered c a :: rest) left (⟨c, expected⟩ :: script) where
  calls := by simp [h.calls]
  -- only the request itself can stand behind nothing but answers: nothing follows the refusal
  earlier before c' after heq := by
    rcases before with _ | ⟨first, _ | ⟨second, before⟩⟩
    · rfl
    · simp at heq
    · simp only [List.cons_append, List.cons.injEq] at heq
      exact absurd h.calls (callsOf_ne_nil heq.2.2)
  ending e he := by simp [h.ending e he, ha]
  success e he := by
    have hne : ending ≠ .ok () := fun heq => c.failure?_ne_ok a (heq ▸ ha)
    have hdiff : a ≠ expected := by
      rintro rfl
      simp [ha] at hexpected
    simp [h.ending e he, hne, h.exchanges, hdiff]
  finishes heq := by
    have hdiff : a = expected := by
      simp only [exchangesOf_cons, TransferEvent.exchange?_called,
        TransferEvent.exchange?_answered, h.exchanges] at heq
      simpa using (List.cons.inj heq).1
    simp [← hdiff, ha] at hexpected

end Follows

/-! ## Paths through the nodes of a transfer -/

namespace Program

variable {σ : Type} {h : Host σ} {events : List TransferEvent} {q : Program}

/-- A path from a request: it makes the request, and goes on by the answer. -/
theorem Path.call_cases {c : Call} {next : c.Answer → Program}
    (path : Path h (.call c next) events q) :
    (events = [] ∧ q = .call c next) ∨ (events = [.called c] ∧ q = .answer c next) ∨
      ∃ a rest, events = .called c :: .answered c a :: rest ∧ (next a).Path h rest q := by
  cases path with
  | refl => exact .inl ⟨rfl, rfl⟩
  | head work path =>
    cases work
    cases path with
    | refl => exact .inr (.inl ⟨rfl, rfl⟩)
    | head work path =>
      cases work with
      | answer given => exact .inr (.inr ⟨_, _, rfl, path⟩)

/-- A path from a request that concerns staging. -/
theorem Path.stage_cases {request : StagingRequest} {next : request.Answer → Program}
    (path : Path h (.stage request next) events q) :
    (events = [] ∧ q = .stage request next) ∨
      ∃ a rest, events = .staged request a :: rest ∧ (next a).Path h rest q := by
  cases path with
  | refl => exact .inl ⟨rfl, rfl⟩
  | head work path =>
    cases work
    exact .inr ⟨_, _, rfl, path⟩

/-- A path from a report. -/
theorem Path.note_cases {n : Notice} {rest : Program} (path : Path h (.note n rest) events q) :
    (events = [] ∧ q = .note n rest) ∨
      ∃ later, events = .noted n :: later ∧ rest.Path h later q := by
  cases path with
  | refl => exact .inl ⟨rfl, rfl⟩
  | head work path =>
    cases work
    exact .inr ⟨_, rfl, path⟩

/-- A transfer that waits for nothing does not come to wait. -/
theorem Concludes.of_path {p : Program} {e : Ending} (ends : p.Concludes e)
    (path : p.Path h events q) : q.Concludes e := by
  induction path with
  | refl => exact ends
  | head work _ ih =>
    apply ih
    cases ends with
    | done => cases work
    | stage ends => cases work; exact ends _
    | note _ ends => cases work; exact ends

/-! ## The parts of an upload -/

theorem conclude_eq (file : Disk.FreshFile) (result : Except TransferError Unit) :
    conclude file result = .stage (.remove file) fun
      | .ok () => .done (.ofExcept result)
      | .error e => .note (.stagingLeft e) (.done (.ofExcept result)) := by
  cases result <;> rfl

/-- The end of an upload whose payload has been staged. -/
theorem quiet_conclude {file : Disk.FreshFile} {result : Except TransferError Unit}
    (path : (conclude file result).Path h events q) :
    Quiet events q (.ofExcept result) := by
  have hend : ∀ e, Program.done (.ofExcept result) = .done e → e = .ofExcept result :=
    fun e he => (Program.done.inj he).symm
  rw [conclude_eq] at path
  rcases path.stage_cases with ⟨rfl, rfl⟩ | ⟨_ | _, rest, rfl, onward⟩
  · exact ⟨rfl, rfl, rfl, nofun⟩
  · rcases onward.note_cases with ⟨rfl, rfl⟩ | ⟨later, rfl, last⟩
    · exact ⟨rfl, rfl, rfl, nofun⟩
    · obtain ⟨rfl, rfl⟩ := last.of_done
      exact ⟨rfl, rfl, rfl, hend⟩
  · obtain ⟨rfl, rfl⟩ := onward.of_done
    exact ⟨rfl, rfl, rfl, hend⟩

theorem concludes_conclude (file : Disk.FreshFile) (result : Except TransferError Unit) :
    (conclude file result).Concludes (.ofExcept result) := by
  rw [conclude_eq]
  refine .stage fun
    | .ok () => .done _
    | .error _ => .note _ (.done _)

/-- The end of an upload in the middle of a request. -/
theorem quiet_unwind {file : Disk.FreshFile} {cause : Panic}
    (path : (unwind file cause).Path h events q) : Quiet events q (.panic cause) := by
  rcases path.stage_cases with ⟨rfl, rfl⟩ | ⟨_, rest, rfl, onward⟩
  · exact ⟨rfl, rfl, rfl, nofun⟩
  · obtain ⟨rfl, rfl⟩ := onward.of_done
    exact ⟨rfl, rfl, rfl, fun e he => (Program.done.inj he).symm⟩

/-- How an upload goes on after a failure behind the staging. -/
inductive GivesUp (file : Disk.FreshFile) : Program → Ending → Prop
  | error (e : TransferError) : GivesUp file (conclude file (.error e)) (.error e)
  | panic (p : Panic) : GivesUp file (unwind file p) (.panic p)

theorem GivesUp.quiet {file : Disk.FreshFile} {p : Program} {ending : Ending}
    (gives : GivesUp file p ending) (path : p.Path h events q) : Quiet events q ending := by
  cases gives with
  | error => exact quiet_conclude path
  | panic => exact quiet_unwind path

/-- An upload that makes a request behind the staging goes on with an answer that is no failure, or
it follows every script that begins with the request. -/
theorem Path.request_cases (file : Disk.FreshFile) {c : Call} {next : c.Answer → Program}
    (path : Path h (.call c next) events q)
    (fails : ∀ a ending, c.failure? a = some ending → GivesUp file (next a) ending) :
    (∃ a rest, c.failure? a = none ∧ events = .called c :: .answered c a :: rest ∧
        (next a).Path h rest q) ∨
      (callsOf events).length ≤ 1 ∧
        ∀ a script, c.failure? a = none → Follows events q (⟨c, a⟩ :: script) := by
  -- not asked yet, asked, or answered; an answer is a failure or leads on
  rcases path.call_cases with ⟨rfl, rfl⟩ | ⟨rfl, rfl⟩ | ⟨a, rest, rfl, onward⟩
  · exact .inr ⟨by simp, fun a script _ => .of_nil nofun nofun⟩
  · exact .inr ⟨by simp, fun a script _ => .asked nofun⟩
  · rcases ha : c.failure? a with _ | ending
    · exact .inl ⟨a, rest, ha, rfl, onward⟩
    · have quiet := (fails a ending ha).quiet onward
      exact .inr ⟨by simp [quiet.calls], fun expected script hexpected =>
        .refused ha hexpected quiet⟩

/-- A successful end follows the empty script. -/
theorem conclude_follows {file : Disk.FreshFile} (path : (conclude file (.ok ())).Path h events q) :
    Follows events q [] := by
  have quiet := quiet_conclude path
  refine ⟨by simp [quiet.calls], fun before c after heq => ?_, fun e he => ?_, fun e he => ?_,
    fun _ => (concludes_conclude file (.ok ())).of_path path⟩
  · exact absurd quiet.calls (Follows.callsOf_ne_nil heq)
  · simp [quiet.ending e he, quiet.failure, Outcome.ofExcept]
  · simp [quiet.ending e he, quiet.exchanges, Outcome.ofExcept]

/-- Pointing the document at the new object takes two requests. -/
theorem repoint_follows {i : Identifier} {operations : List OperationCode} {file : Disk.FreshFile}
    {info : ObjectInfo} (path : (repoint i operations file info).Path h events q) :
    ∃ parent : Identifier, Follows events q
      [⟨.parent i.document, .ok parent⟩,
        ⟨.update i.document i.device parent.document operations info, .ok ()⟩] := by
  rcases path.request_cases file (by rintro (_ | e | p) ending ⟨⟩ <;> constructor) with
    ⟨parent | _ | _, rest, ⟨⟩, rfl, onward⟩ | ⟨-, stops⟩
  · refine ⟨parent, .answered rfl ?_⟩
    rcases onward.request_cases file
      (by rintro (_ | e | p) ending ⟨⟩ <;> constructor) with
      ⟨_ | _ | _, rest, ⟨⟩, rfl, last⟩ | ⟨-, stops⟩
    · exact .answered rfl (conclude_follows last)
    · exact stops _ _ rfl
  · exact ⟨i, stops _ _ rfl⟩

/-- Creating the new object from the staged payload takes two requests before the document can be
pointed at it. The size and the source are those that the staging file has shown. -/
theorem replace_follows {i : Identifier} {operations : List OperationCode} {file : Disk.FreshFile}
    {placeholder : ObjectInfo} (path : (replace i operations file placeholder).Path h events q) :
    ∃ r : Replacement, r.placeholder = placeholder ∧
      Follows events q ((r.script i operations).drop 2) ∧
      (callsOf events ≠ [] → .staged (.measure file) (.ok r.size) ∈ events ∧
        .staged (.openSource file) (.ok r.source) ∈ events) := by
  -- which replacement is followed does not matter before a request names it
  let any : Replacement := ⟨placeholder, 0, ⟨[], none⟩, 0, placeholder, i⟩
  rcases path.stage_cases with ⟨rfl, rfl⟩ | ⟨e | size, rest, rfl, onward⟩
  · exact ⟨any, rfl, .of_nil nofun nofun, by simp⟩
  · have quiet := quiet_conclude onward
    exact ⟨any, rfl, .failed rfl rfl rfl quiet nofun, by simp [quiet.calls]⟩
  rcases onward.stage_cases with ⟨rfl, rfl⟩ | ⟨e | source, rest, rfl, creating⟩
  · exact ⟨any, rfl, .silent ⟨rfl, rfl, rfl⟩ (.of_nil nofun nofun), by simp⟩
  · have quiet := quiet_conclude creating
    exact ⟨any, rfl, .silent ⟨rfl, rfl, rfl⟩ (.failed rfl rfl rfl quiet nofun),
      by simp [quiet.calls]⟩
  -- measuring and opening are no requests, so what is left of the script is behind them
  suffices ∃ handle info parent, Follows rest q
      ((Replacement.script ⟨placeholder, size, source, handle, info, parent⟩ i
        operations).drop 2) by
    obtain ⟨handle, info, parent, follows⟩ := this
    exact ⟨⟨placeholder, size, source, handle, info, parent⟩, rfl,
      .silent ⟨rfl, rfl, rfl⟩ (.silent ⟨rfl, rfl, rfl⟩ follows), by simp⟩
  rcases creating.request_cases file
    (by rintro (_ | e | p) ending ⟨⟩ <;> constructor) with
    ⟨handle | _ | _, rest, ⟨⟩, rfl, asking⟩ | ⟨-, stops⟩
  · rcases asking.request_cases file
      (by rintro (_ | e | p) ending ⟨⟩ <;> constructor) with
      ⟨info | _ | _, rest, ⟨⟩, rfl, repointing⟩ | ⟨-, stops⟩
    · obtain ⟨parent, follows⟩ := repoint_follows repointing
      exact ⟨handle, info, parent, .answered rfl (.answered rfl follows)⟩
    · exact ⟨handle, placeholder, i, .answered rfl (stops _ _ rfl)⟩
  · exact ⟨0, placeholder, i, stops _ _ rfl⟩

/-- Committing a staged payload follows the script. A request to create the new object is made with
the size and the source that the staging file has shown. -/
theorem commit_follows {i : Identifier} {operations : List OperationCode} {file : Disk.FreshFile}
    (path : (commit i operations file).Path h events q) :
    ∃ r : Replacement, Follows events q (r.script i operations) ∧
      (2 < (callsOf events).length → .staged (.measure file) (.ok r.size) ∈ events ∧
        .staged (.openSource file) (.ok r.source) ∈ events) := by
  -- of the first two requests only the placeholder shows
  let any (placeholder : ObjectInfo) : Replacement :=
    ⟨placeholder, 0, ⟨[], none⟩, 0, placeholder, i⟩
  rcases path.request_cases file
    (by rintro (_ | e | p) ending ⟨⟩ <;> constructor) with
    ⟨placeholder | _ | _, rest, ⟨⟩, rfl, deleting⟩ | ⟨few, stops⟩
  · rcases deleting.request_cases file
      (by rintro (_ | e | p) ending ⟨⟩ <;> constructor) with
      ⟨_ | _ | _, rest, ⟨⟩, rfl, replacing⟩ | ⟨few, stops⟩
    · obtain ⟨r, rfl, follows, hshown⟩ := replace_follows replacing
      refine ⟨r, .answered rfl (.answered rfl follows), fun many => ?_⟩
      have hne : callsOf rest ≠ [] := by
        rintro hnil
        simp [hnil] at many
      simpa using hshown hne
    · refine ⟨any placeholder, .answered rfl (stops _ _ rfl), fun many => ?_⟩
      simp at many
      omega
  · exact ⟨any (.new 0 0 0 ""), stops _ _ rfl, fun many => by omega⟩

/-- A copy is silent while it goes on and when it ends well. -/
theorem isSilent_of_works {d : Drain} {p : Pipe} {disk disk' : Disk} {turn : Drain.Turn} {r : Pipe}
    (work : d.Works p disk events turn r disk') (h : ∀ e, turn ≠ .ended (.error e)) :
    ∀ e ∈ events, e.IsSilent := by
  cases work with
  | readFailed | checkFailed | saveFailed => exact absurd rfl (h _)
  | read | ended | saved =>
    intro e he
    simp only [List.mem_cons, List.not_mem_nil, or_false] at he
    rcases he with rfl | rfl <;> exact ⟨rfl, rfl, rfl⟩

/-- A copy that ends with an error has failed in its last step. -/
theorem failure_of_works {d : Drain} {p : Pipe} {disk disk' : Disk} {cause : TransferError}
    {r : Pipe} (work : d.Works p disk events (.ended (.error cause)) r disk') :
    ∃ before last, events = before ++ [last] ∧ (∀ e ∈ before, e.IsSilent) ∧ last.call? = none ∧
      last.exchange? = none ∧ last.failure? = some (.error cause) := by
  cases work with
  | readFailed | checkFailed => exact ⟨[], _, rfl, by simp, rfl, rfl, rfl⟩
  | saveFailed => exact ⟨[_], _, rfl, by simpa using ⟨rfl, rfl, rfl⟩, rfl, rfl, rfl⟩

/-- A path from a copy: the copy goes on, or it has ended, well or with the failure of its last
step, and the transfer goes on by that. -/
theorem Path.drain_cases {d : Drain} {next : Except TransferError Nat → Program}
    (path : Path h (.drain d next) events q) :
    ((∀ e ∈ events, e.IsSilent) ∧ ∃ d', q = .drain d' next) ∨
      (∃ first n rest, events = first ++ rest ∧ (∀ e ∈ first, e.IsSilent) ∧
        (next (.ok n)).Path h rest q) ∨
      ∃ first last cause rest, events = first ++ last :: rest ∧ (∀ e ∈ first, e.IsSilent) ∧
        last.call? = none ∧ last.exchange? = none ∧ last.failure? = some (.error cause) ∧
        (next (.error cause)).Path h rest q := by
  generalize hp : Program.drain d next = p at path
  induction path generalizing d with
  | refl => exact .inl ⟨by simp, d, hp.symm⟩
  | head work path ih =>
    subst hp
    cases work with
    | drain step =>
      have hstep := isSilent_of_works step nofun
      -- a step that goes on is silent, and may stand before what comes of the rest
      have happend {first : List TransferEvent} (hfirst : ∀ e ∈ first, e.IsSilent) :
          ∀ e ∈ _ ++ first, e.IsSilent :=
        fun e he => (List.mem_append.1 he).elim (hstep e) (hfirst e)
      rcases ih rfl with ⟨hrest, hq⟩ | ⟨first, n, rest, rfl, hfirst, onward⟩ |
        ⟨first, last, cause, rest, rfl, hfirst, hlast, onward⟩
      · exact .inl ⟨happend hrest, hq⟩
      · exact .inr (.inl ⟨_, n, rest, (List.append_assoc ..).symm, happend hfirst, onward⟩)
      · exact .inr (.inr ⟨_, last, cause, rest, (List.append_assoc ..).symm, happend hfirst, hlast,
          onward⟩)
    | @drained _ _ _ _ _ _ r step =>
      rcases r with cause | n
      · obtain ⟨before, last, rfl, hbefore, hlast⟩ := failure_of_works step
        exact .inr (.inr ⟨before, last, cause, _, by simp, hbefore, hlast.1, hlast.2.1, hlast.2.2,
          path⟩)
      · exact .inr (.inl ⟨_, n, _, rfl, isSilent_of_works step nofun, path⟩)

/-- Whatever answers an upload gets, it makes its six requests in order, each only after all before
it were answered well, and ends with the first failure, or well if there is none and all requests
have been made. A request to create the new object is made with the size and the source that the
staging file has shown. -/
theorem upload_follows {i : Identifier} {operations : List OperationCode} {staging : Staging}
    (path : (upload i operations staging).Path h events q) :
    ∃ r : Replacement, Follows events q (r.script i operations) ∧
      (2 < (callsOf events).length → ∃ file, .staged (.measure file) (.ok r.size) ∈ events ∧
        .staged (.openSource file) (.ok r.source) ∈ events) := by
  let any : Replacement := ⟨.new 0 0 0 "", 0, ⟨[], none⟩, 0, .new 0 0 0 "", i⟩
  have callsOf_silent {es : List TransferEvent} (hes : ∀ e ∈ es, e.IsSilent) : callsOf es = [] :=
    List.filterMap_eq_nil_iff.2 fun e he => (hes e he).call
  rcases path.stage_cases with ⟨rfl, rfl⟩ | ⟨e | file, rest, rfl, onward⟩
  · exact ⟨any, .of_nil nofun nofun, by simp⟩
  · obtain ⟨rfl, rfl⟩ := onward.of_done
    have quiet : Quiet [] (.done (.error (.staging e))) (.error (.staging e)) :=
      ⟨rfl, rfl, rfl, fun _ he => (Program.done.inj he).symm⟩
    exact ⟨any, .failed rfl rfl rfl quiet nofun, by simp⟩
  -- what is staged first is no request, and shows nothing
  suffices ∃ r : Replacement, Follows rest q (r.script i operations) ∧
      (2 < (callsOf rest).length → ∃ file, .staged (.measure file) (.ok r.size) ∈ rest ∧
        .staged (.openSource file) (.ok r.source) ∈ rest) by
    obtain ⟨r, follows, hshown⟩ := this
    refine ⟨r, .silent ⟨rfl, rfl, rfl⟩ follows, fun many => ?_⟩
    obtain ⟨file, hsize, hsource⟩ := hshown (by simpa using many)
    exact ⟨file, by simp [hsize], by simp [hsource]⟩
  -- still copying; copied, so that it commits; or failed, so that it discards the file
  rcases onward.drain_cases with ⟨hrest, d, rfl⟩ | ⟨first, n, rest, rfl, hfirst, committing⟩ |
    ⟨first, last, cause, rest, rfl, hfirst, hcall, hexchange, hfail, discarding⟩
  · refine ⟨any, ?_, by simp [callsOf_silent hrest]⟩
    rw [← List.append_nil rest]
    exact .silent_append hrest (.of_nil nofun nofun)
  · obtain ⟨r, follows, hshown⟩ := commit_follows committing
    refine ⟨r, follows.silent_append hfirst, fun many => ?_⟩
    obtain ⟨hsize, hsource⟩ := hshown (by simpa [callsOf_silent hfirst] using many)
    exact ⟨file, by simp [hsize], by simp [hsource]⟩
  · have quiet : Quiet rest q (.error cause) := by
      rcases discarding.stage_cases with ⟨rfl, rfl⟩ | ⟨_, later, rfl, ended⟩
      · exact ⟨rfl, rfl, rfl, nofun⟩
      · obtain ⟨rfl, rfl⟩ := ended.of_done
        exact ⟨rfl, rfl, rfl, fun e he => (Program.done.inj he).symm⟩
    have hscript : any.script i operations ≠ [] := nofun
    have follows := Follows.failed hcall hexchange hfail quiet hscript
    refine ⟨any, follows.silent_append hfirst, ?_⟩
    simp [callsOf_silent hfirst, hcall, quiet.calls]

end Program

end ObjectTransfer
