import FirmwareVars.Proofs.Trace
import FirmwareVars.Proofs.Store.Failure

/-!
# The immutable window of a write

Before a write changes a file it opens an immutable window on it (`Guard.windowed`): it reads the
file's flag word and, when the immutable bit is set, clears it; when the window closes the saved
word is set back, whichever way the change inside ended. This module reads the window off the
calls of a write, for every host: every tree, every flag word and flag-store behaviour, every
action of another actor and every handover of the mutating open.

A write (`Store.set`, and `Store.append` through it) opens at most one window. Its guard calls
(`Call.isGuard`) go one of five ways (`WindowCalls`): the filesystem keeps no flags; the query fails
and is reported; the word has no immutable bit; the clear is refused and reported; or the bit is
cleared and the word read is set back on the same descriptor, a refused restore being reported.
So the flag words a write sets are none, the clear alone, or the clear and then the word read.

The window sits around the change itself (`WindowedWrite`): it is opened on the descriptor the
write observed (a replace) or created (a create), every write and cut of the file goes through a
descriptor of that inode inside the window, and the staging file's link and every unlink (the
removal of the staging name, the rollback of a failed in-place create) come after the window has
closed. The persistence copy that follows makes no guard call.

Main statements:
  * `trace_windowed` — a windowed body is its window's opening, the body, and its closing.
  * `put_windowedWrite` — the calls of a write without its persistence copy.
  * `set_restores_immutable` — the flag words of a set or an append, and where they fall.
-/

namespace FirmwareVars

/-! ## §1. Guard calls -/

namespace Call

/-- Whether a call belongs to the immutable guard: a query or a setting of a flag word, or the
report of a failed query, clear or restore. -/
def isGuard : Call → Bool
  | .getFlags _ | .setFlags .. => true
  | .note (.diagnostic d) =>
    d.kind == .queryFailed || d.kind == .clearFailed || d.kind == .restoreFailed
  | _ => false

/-- The inode a call writes or cuts through a descriptor, if it is such a call. -/
def written? : Call → Option Nat
  | .write hd _ _ | .truncate hd _ => some hd.ino
  | _ => none

/-- Whether a call links or unlinks a name. -/
def relinks : Call → Bool
  | .publish .. | .unlink _ => true
  | _ => false

end Call

namespace Host

/-- What a query of the flag word of descriptor `hd` answers on host `h`. -/
def flagAnswer (h : Host) (hd : Handle) : Except OsError UInt32 :=
  match h.flagPolicy.queryErrno with
  | some n => .error (.errno n)
  | none => .ok (h.fs.flagsOf hd.ino h.flagPolicy.defaultWord)

theorem run_getFlags_answer (h : Host) (hd : Handle) :
    run (Sys.getFlags hd) h = (h.flagAnswer hd, h) :=
  run_getFlags h hd

/-- The descriptor a call hands back on host `h` when it observes a file or creates one. -/
def opened? (h : Host) : Call → Option Handle
  | .observe p => Except.toOption (h.exec (.observe p)).1
  | .reopen p (.createNew m) => Except.toOption (h.exec (.reopen p (.createNew m))).1
  | _ => none

/-- Setting a word with the immutable bit is refused exactly when restores are. -/
theorem run_setFlags_restore (h : Host) (hd : Handle) {w : UInt32}
    (hw : Guard.isImmutableWord w = true) :
    (run (Sys.setFlags hd w) h).1 =
      if h.flagPolicy.rejectRestore then .error .notPermitted else .ok () := by
  show (h.exec (.setFlags hd w)).1 = _
  have hbit : (w &&& immutableBit != 0) = true := hw
  simp only [exec, hbit, Bool.true_and, Bool.not_true, Bool.false_and, Bool.or_false]
  split <;> rfl

end Host

/-- The guard calls of one immutable window on descriptor `hd`, as the calls that open it and the
calls that close it. The window queries the word of `hd`, and then:

* the filesystem keeps no flags (the query fails with an errno that says so): nothing is set;
* the query fails otherwise: nothing is set, and the failure is reported once;
* the word has no immutable bit: nothing is set;
* the word has the bit and its clear is refused: the refusal is reported once, and nothing is
  put back;
* the bit is cleared, and when the window closes the word read is set back on `hd`; a refused
  restore is reported once. -/
inductive WindowCalls (hd : Handle) : List (Call × Host) → List (Call × Host) → Prop
  | unsupported {h : Host} {e : OsError} (hq : h.flagAnswer hd = .error e)
      (he : e.isUnsupported = true) :
      WindowCalls hd [(.getFlags hd, h)] []
  | queryFailed {h h' : Host} {e : OsError} {d : Diagnostic} (hq : h.flagAnswer hd = .error e)
      (he : e.isUnsupported = false) (hk : d.kind = .queryFailed) :
      WindowCalls hd [(.getFlags hd, h), (.note (.diagnostic d), h')] []
  | notImmutable {h : Host} {w : UInt32} (hq : h.flagAnswer hd = .ok w)
      (hw : Guard.isImmutableWord w = false) :
      WindowCalls hd [(.getFlags hd, h)] []
  | clearRefused {h h₁ h₂ : Host} {w : UInt32} {d : Diagnostic} (hq : h.flagAnswer hd = .ok w)
      (hw : Guard.isImmutableWord w = true) (hr : h.flagPolicy.rejectClear = true)
      (hk : d.kind = .clearFailed) :
      WindowCalls hd [(.getFlags hd, h), (.setFlags hd (w &&& ~~~immutableBit), h₁),
        (.note (.diagnostic d), h₂)] []
  | restored {h h₁ h₂ : Host} {w : UInt32} {rest : List (Call × Host)}
      (hq : h.flagAnswer hd = .ok w) (hw : Guard.isImmutableWord w = true)
      (hc : h.flagPolicy.rejectClear = false)
      (hrest : if h.flagPolicy.rejectRestore then
          ∃ d h₃, d.kind = .restoreFailed ∧ rest = [(.note (.diagnostic d), h₃)]
        else rest = []) :
      WindowCalls hd [(.getFlags hd, h), (.setFlags hd (w &&& ~~~immutableBit), h₁)]
        ((.setFlags hd w, h₂) :: rest)

/-- Only guard calls set flag words. -/
theorem Call.flagWord?_eq_none {c : Call} (hc : c.isGuard = false) : c.flagWord? = none := by
  cases c with
  | setFlags hd w => cases hc
  | _ => rfl

theorem flagWords_unguarded {t : List (Call × Host)} (ht : ∀ c ∈ t, c.1.isGuard = false) :
    t.filterMap (·.1.flagWord?) = [] :=
  List.filterMap_eq_nil_iff.mpr fun c hc => Call.flagWord?_eq_none (ht c hc)

/-- The flag words a window sets: none, the clear of the immutable bit of the word `w` its query
read, or that clear and then `w`. -/
theorem WindowCalls.flagWords {hd : Handle} {opened closed : List (Call × Host)}
    (hwin : WindowCalls hd opened closed) :
    (opened ++ closed).filterMap (·.1.flagWord?) = [] ∨
      ∃ h w, (Call.getFlags hd, h) ∈ opened ∧ h.flagAnswer hd = .ok w ∧
        Guard.isImmutableWord w = true ∧
        ((opened ++ closed).filterMap (·.1.flagWord?) = [w &&& ~~~immutableBit] ∨
          (opened ++ closed).filterMap (·.1.flagWord?) = [w &&& ~~~immutableBit, w]) := by
  cases hwin with
  | unsupported hq he => exact .inl rfl
  | queryFailed hq he hk => exact .inl rfl
  | notImmutable hq hw => exact .inl rfl
  | clearRefused hq hw hr hk => exact .inr ⟨_, _, List.mem_cons_self, hq, hw, .inl rfl⟩
  | restored hq hw hc hrest =>
    refine .inr ⟨_, _, List.mem_cons_self, hq, hw, .inr ?_⟩
    -- a refused restore adds its report, which sets nothing
    split at hrest
    · obtain ⟨d, h₃, -, rfl⟩ := hrest
      rfl
    · rw [hrest]
      rfl

namespace Guard

open StoreM

/-- Opening and closing a window go one of the ways of `WindowCalls`, whatever happened to the host
in between, as long as its flag store behaves the same. -/
theorem window_of_open (hd : Handle) (p : Path) (op : String) (h h₂ : Host)
    (hp : h₂.flagPolicy = h.flagPolicy) :
    WindowCalls hd (Host.trace (openWindow hd p op) h)
      (Host.trace (closeWindow (Host.run (openWindow hd p op) h).1) h₂) := by
  unfold openWindow
  rw [Host.trace_bind, Host.run_bind, Host.run_getFlags_answer]
  have hq0 : Host.trace (Sys.getFlags hd) h = [(.getFlags hd, h)] := rfl
  rw [hq0]
  cases hq : h.flagAnswer hd with
  | error e =>
    dsimp only
    cases he : e.isUnsupported
    · simp only [Bool.false_eq_true, ↓reduceIte]
      exact .queryFailed hq he rfl
    · simp only [↓reduceIte]
      exact .unsupported hq he
  | ok w =>
    dsimp only
    cases hw : isImmutableWord w
    · simp only [Bool.not_false, ↓reduceIte]
      exact .notImmutable hq hw
    · simp only [Bool.not_true, Bool.false_eq_true, ↓reduceIte]
      rw [Host.trace_bind, Host.run_bind, Host.run_setFlags_clear]
      have hs0 : Host.trace (Sys.setFlags hd (w &&& ~~~immutableBit)) h =
          [(.setFlags hd (w &&& ~~~immutableBit), h)] := rfl
      rw [hs0]
      cases hc : h.flagPolicy.rejectClear
      · -- the clear is taken: the window closes by setting the word back
        simp only [Bool.false_eq_true, ↓reduceIte]
        have hpure : ∀ (a : Option Window) (h' : Host), Host.run (pure a) h' = (a, h') ∧
            Host.trace (pure a) h' = [] := fun _ _ => ⟨rfl, rfl⟩
        rw [(hpure _ _).1, (hpure _ _).2]
        unfold closeWindow
        dsimp only
        rw [Host.trace_bind]
        have hr0 : Host.trace (Sys.setFlags hd w) h₂ = [(.setFlags hd w, h₂)] := rfl
        rw [hr0, Host.run_setFlags_restore h₂ hd hw, hp]
        refine .restored hq hw hc ?_
        split
        · exact ⟨_, _, rfl, rfl⟩
        · rfl
      · simp only [↓reduceIte]
        exact .clearRefused hq hw hc rfl

/-- A windowed body makes the calls that open its window, then its own calls from the host the
opening left, then the calls that close the window. -/
theorem trace_windowed {α : Type} (hd : Handle) (p : Path) (op : String) (body : StoreM α)
    (st : Store) (h : Host) :
    ∃ opened closed h₁, WindowCalls hd opened closed ∧
      trace (windowed hd p op body) st h = opened ++ trace body st h₁ ++ closed := by
  set h₁ := (Host.run (openWindow hd p op) h).2 with hh₁
  set h₂ := (exec body st h₁).2 with hh₂
  -- the body and the window keep the flag store's behaviour
  have hp : h₂.flagPolicy = h.flagPolicy := by
    rw [hh₂, StoreM.exec_flagPolicy, hh₁, Host.run_flagPolicy]
  refine ⟨_, _, h₁, window_of_open hd p op h h₂ hp, ?_⟩
  unfold windowed
  rw [trace_bind, trace_lift, exec_lift]
  dsimp only
  rw [trace_bind, trace_attempt, exec_attempt]
  dsimp only
  rw [trace_bind, trace_lift, exec_lift]
  dsimp only
  rw [trace_ofExcept, List.append_nil, List.append_assoc]

end Guard

/-! ## §2. Calls around the window -/

namespace Call

/-- A call a write makes before its window: no guard call, no write or cut, no link or unlink. -/
def IsPrelude (c : Call) : Prop := c.isGuard = false ∧ c.written? = none ∧ c.relinks = false

/-- A call a write makes inside its window on inode `i`: no guard call, no link or unlink, and
whatever it writes or cuts is `i`. -/
def IsInside (i : Nat) (c : Call) : Prop :=
  c.isGuard = false ∧ c.relinks = false ∧ ∀ j, c.written? = some j → j = i

/-- A call a write makes after its window: no guard call, no write or cut. -/
def IsAfter (c : Call) : Prop := c.isGuard = false ∧ c.written? = none

theorem IsPrelude.isInside {c : Call} (hc : c.IsPrelude) (i : Nat) : c.IsInside i :=
  ⟨hc.1, hc.2.2, fun j hj => by rw [hc.2.1] at hj; cases hj⟩

end Call

/-- The calls `t` of a write, around its immutable window. Either the write stops before it opens
a window, and no call of `t` belongs to the guard; or `t` is `pre ++ opened ++ body ++ closed ++
post` around one window on descriptor `hd`, where `hd` is the descriptor a call of `pre` handed
back when it observed or created the file, the calls before the window write, link and unlink
nothing, the calls inside it write and cut only `hd`'s inode and link and unlink nothing, the
calls after it write nothing, and only the window's own calls belong to the guard. -/
def WindowedWrite (t : List (Call × Host)) : Prop :=
  (∀ c ∈ t, c.1.isGuard = false) ∨
  ∃ hd pre opened body closed post, t = pre ++ opened ++ body ++ closed ++ post ∧
    WindowCalls hd opened closed ∧ (∃ c ∈ pre, c.2.opened? c.1 = some hd) ∧
    (∀ c ∈ pre, c.1.IsPrelude) ∧ (∀ c ∈ body, c.1.IsInside hd.ino) ∧ ∀ c ∈ post, c.1.IsAfter

/-- Calls that write, link and unlink nothing may come before a write's calls. -/
theorem WindowedWrite.prepend {pre₀ t : List (Call × Host)} (hpre : ∀ c ∈ pre₀, c.1.IsPrelude)
    (ht : WindowedWrite t) : WindowedWrite (pre₀ ++ t) := by
  rcases ht with ht | ⟨hd, pre, opened, body, closed, post, rfl, hwin, ⟨c, hc, hop⟩, hp, hb, ha⟩
  · left
    intro c hc
    rcases List.mem_append.mp hc with hc | hc
    · exact (hpre c hc).1
    · exact ht c hc
  · right
    refine ⟨hd, pre₀ ++ pre, opened, body, closed, post, by simp only [List.append_assoc], hwin,
      ⟨c, List.mem_append_right _ hc, hop⟩, fun c hc => ?_, hb, ha⟩
    rcases List.mem_append.mp hc with hc | hc
    · exact hpre c hc
    · exact hp c hc

namespace StoreM.AllCalls

variable {α β : Type} {P : Call → Prop}

theorem mono {Q : Call → Prop} {x : StoreM α} (hx : AllCalls P x) (hPQ : ∀ c, P c → Q c) :
    AllCalls Q x :=
  fun st h ch hch => hPQ _ (hx st h ch hch)

theorem ite {c : Prop} [Decidable c] {x y : StoreM α} (hx : AllCalls P x) (hy : AllCalls P y) :
    AllCalls P (if c then x else y) := by
  split
  · exact hx
  · exact hy

theorem throw_bind (e : StoreError) (f : α → StoreM β) :
    AllCalls P (MonadExcept.throw e >>= f) := by
  intro st h ch hch
  rw [trace_bind, trace_throw, exec_throw] at hch
  cases hch

end StoreM.AllCalls

namespace WindowedWrite

open StoreM

/-- Calls that write, link and unlink nothing may come before a write; when they fail, nothing
else happens. -/
theorem of_prelude {t : List (Call × Host)} (ht : ∀ c ∈ t, c.1.IsPrelude) : WindowedWrite t :=
  .inl fun c hc => (ht c hc).1

theorem bind {α β : Type} {x : StoreM α} {f : α → StoreM β} (hx : AllCalls Call.IsPrelude x)
    (hf : ∀ a st h, WindowedWrite (trace (f a) st h)) (st : Store) (h : Host) :
    WindowedWrite (trace (x >>= f) st h) := by
  rw [trace_bind]
  refine prepend (hx st h) ?_
  rcases exec x st h with ⟨⟨r, st'⟩, h'⟩
  cases r with
  | ok a => exact hf a st' h'
  | error e => exact .inl fun c hc => by cases hc

end WindowedWrite

namespace Store

open StoreM

theorem isVarfsRoot_prelude : AllCalls Call.IsPrelude isVarfsRoot := by
  unfold isVarfsRoot
  refine .bind .get fun s => ?_
  split
  · exact .pure _
  · refine .bind (.lift (.perform ⟨rfl, rfl, rfl⟩)) fun r => ?_
    exact .bind (.modify _) fun _ => .pure _

theorem writeOnce_inside (hd : Handle) (p : Path) (bytes : Bytes) :
    AllCalls (Call.IsInside hd.ino) (writeOnce hd p bytes) := by
  unfold writeOnce
  refine .bind (.call (.perform ⟨rfl, rfl, fun j hj => by cases hj; rfl⟩)) fun n => ?_
  split
  · exact .throw _
  · exact .pure _

theorem replace_body_inside (p : Path) (observed : Handle) (a : Attributes) (bytes : Bytes) :
    AllCalls (Call.IsInside observed.ino) (do
      let h ← match ← (Sys.reopen p (.write a.isAppend) : StoreM _) with
        | .ok h => pure h
        | .error e =>
          if e.isNotFound then throw (.race p .removed) else throw (.ofOs "open for writing" p e)
      if h.ino ≠ observed.ino then throw (.race p .replaced)
      writeOnce h p bytes
      if !a.isAppend then
        if !(← isVarfsRoot) then call "truncate" p (Sys.truncate h bytes.length)) := by
  refine .bind (.lift (.perform ⟨rfl, rfl, fun j hj => by cases hj⟩)) fun r => ?_
  cases r with
  | error e =>
    dsimp only
    split <;> exact .throw_bind _ _
  | ok h =>
    dsimp only
    refine .bind (.pure h) fun h => ?_
    split
    · exact .throw_bind _ _
    · rename_i hino
      have hi : h.ino = observed.ino := Classical.not_not.mp hino
      refine .bind (hi ▸ writeOnce_inside h p bytes) fun _ => ?_
      split
      · refine .bind (isVarfsRoot_prelude.mono fun c hc => hc.isInside _) fun b => ?_
        split
        · exact .call (.perform ⟨rfl, rfl, fun j hj => by cases hj; exact hi⟩)
        · exact .pure _
      · exact .pure _

/-- A replace is one window on the observed descriptor, around calls that write and cut only the
observed inode. -/
theorem replace_windowed (p : Path) (observed : Handle) (a : Attributes) (bytes : Bytes)
    (st : Store) (h : Host) :
    ∃ opened body closed, WindowCalls observed opened closed ∧
      trace (replace p observed a bytes) st h = opened ++ body ++ closed ∧
      ∀ c ∈ body, c.1.IsInside observed.ino := by
  unfold replace
  obtain ⟨opened, closed, h₁, hwin, htr⟩ := Guard.trace_windowed observed p "set" _ st h
  exact ⟨opened, _, closed, hwin, htr, replace_body_inside p observed a bytes st h₁⟩

/-- A replace of the descriptor that call `c` observed, after calls that write, link and unlink
nothing. -/
theorem replace_windowedWrite {c : Call × Host} {observed : Handle}
    (hc : c.2.opened? c.1 = some observed) (hcp : c.1.IsPrelude) {mid : List (Call × Host)}
    (hmid : ∀ x ∈ mid, x.1.IsPrelude) (p : Path) (a : Attributes) (bytes : Bytes) (st : Store)
    (h : Host) : WindowedWrite (c :: (mid ++ trace (replace p observed a bytes) st h)) := by
  obtain ⟨opened, body, closed, hwin, htr, hbody⟩ := replace_windowed p observed a bytes st h
  right
  refine ⟨observed, c :: mid, opened, body, closed, [], ?_, hwin, ⟨c, List.mem_cons_self, hc⟩,
    ?_, hbody, fun _ h => by cases h⟩
  · rw [htr]
    simp only [List.cons_append, List.append_assoc, List.append_nil]
  · intro x hx
    rcases List.mem_cons.mp hx with rfl | hx
    · exact hcp
    · exact hmid x hx

theorem rollback_after (p : Path) : AllCalls Call.IsAfter (rollback p) := by
  unfold rollback
  refine .bind (.lift (.perform ⟨rfl, rfl⟩)) fun r => ?_
  split
  · exact .pure _
  · exact .report ⟨rfl, rfl⟩

/-- An in-place create either fails to create its file and makes no other call, or opens its
window on the descriptor of the file it created, writes only that file inside it, and afterwards
writes nothing (the rollback of a failed write). -/
theorem createInPlace_windowed (p : Path) (bytes : Bytes) (mode : Nat) (st : Store) (h : Host) :
    WindowedWrite (trace (createInPlace p bytes mode) st h) := by
  unfold createInPlace
  rw [trace_bind, trace_lift, exec_lift]
  have h0 : Host.trace (Sys.reopen p (.createNew mode)) h = [(.reopen p (.createNew mode), h)] :=
    rfl
  rw [h0]
  rcases hr : Host.run (Sys.reopen p (.createNew mode)) h with ⟨r, h'⟩
  have hop : h.opened? (.reopen p (.createNew mode)) = r.toOption := by
    show Except.toOption (Host.run (Sys.reopen p (.createNew mode)) h).1 = _
    rw [hr]
  cases r with
  | error e =>
    -- the create failed: its error is thrown
    left
    dsimp only
    intro c hc
    split at hc <;>
      rw [trace_bind, trace_throw, exec_throw, List.append_nil, List.append_nil] at hc <;>
      rw [List.mem_singleton.mp hc] <;> rfl
  | ok hd =>
    right
    dsimp only
    rw [trace_bind, trace_pure, exec_pure, List.nil_append]
    dsimp only
    rw [trace_bind, trace_attempt, exec_attempt]
    obtain ⟨opened, closed, h₁, hwin, htr⟩ :=
      Guard.trace_windowed hd p "set" (writeOnce hd p bytes) st h'
    rw [htr]
    refine ⟨hd, _, opened, _, closed, _, rfl, hwin, ⟨_, List.mem_singleton_self _, hop⟩,
      fun c hc => ?_, writeOnce_inside hd p bytes st h₁, ?_⟩
    · rw [List.mem_singleton.mp hc]
      exact ⟨rfl, rfl, rfl⟩
    · -- after the window only the rollback of a failed write makes calls
      exact AllCalls.ite (.bind (rollback_after p) fun _ => .ofExcept _) (.ofExcept _) _ _

/-- The link of a written staging file to its final name writes nothing. -/
theorem publish_after (staged p : Path) :
    AllCalls Call.IsAfter (do
      match ← (Sys.publish staged p : StoreM _) with
      | .ok () => pure ()
      | .error e =>
        if e.isAlreadyExists then throw (.race p .created) else throw (.ofOs "link" p e)) := by
  refine .bind (.lift (.perform ⟨rfl, rfl⟩)) fun r => ?_
  split
  · exact .pure _
  · exact .ite (.throw _) (.throw _)

/-- A staged create either fails to create its staging file and makes no other call, or opens
its window on the staging file it created, writes only that file inside it, and afterwards writes
nothing: it links the staging file to the final name and removes the staging name. -/
theorem createStaged_windowed (p : Path) (bytes : Bytes) (mode : Nat) (st : Store) (h : Host) :
    WindowedWrite (trace (createStaged p bytes mode) st h) := by
  unfold createStaged
  rw [trace_bind, exec_freshStagingPath]
  dsimp only
  rw [trace_bind, trace_call, exec_call]
  set staged := stagingPath p st.process st.stagingCount
  have h0 : trace (freshStagingPath p) st h = [] := rfl
  have h1 : Host.trace (Sys.reopen staged (.createNew mode)) h =
      [(.reopen staged (.createNew mode), h)] := rfl
  rw [h0, h1, List.nil_append]
  rcases hr : Host.run (Sys.reopen staged (.createNew mode)) h with ⟨r, h'⟩
  have hop : h.opened? (.reopen staged (.createNew mode)) = r.toOption := by
    show Except.toOption (Host.run (Sys.reopen staged (.createNew mode)) h).1 = _
    rw [hr]
  cases r with
  | error e =>
    -- the staging file was not made: nothing else happens
    left
    intro c hc
    dsimp only at hc
    rw [List.append_nil, List.mem_singleton] at hc
    rw [hc]
    rfl
  | ok hd =>
    right
    dsimp only
    rw [trace_bind, trace_attempt, exec_attempt, trace_bind]
    obtain ⟨opened, closed, h₁, hwin, htr⟩ :=
      Guard.trace_windowed hd staged "set" (writeOnce hd staged bytes) _ h'
    rw [htr, List.append_assoc (opened ++ _ ++ closed)]
    refine ⟨hd, _, opened, _, closed, _, rfl, hwin, ⟨_, List.mem_singleton_self _, hop⟩,
      fun c hc => ?_, writeOnce_inside hd staged bytes _ h₁, ?_⟩
    · rw [List.mem_singleton.mp hc]
      exact ⟨rfl, rfl, rfl⟩
    -- after the window: the link, if the write went through, and the removal of the staging name
    intro c hc
    rw [List.mem_append] at hc
    rcases hc with hc | hc
    · split at hc
      · exact publish_after staged p _ _ c hc
      · cases hc
    · dsimp only at hc
      exact (AllCalls.bind (rollback_after staged) fun _ => .ofExcept _) _ _ c hc

theorem put_windowedWrite (k : VarKey) (a : Attributes) (data : Bytes) (mode : Nat) (st : Store)
    (h : Host) : WindowedWrite (trace (put k a data mode) st h) := by
  unfold put
  refine WindowedWrite.bind (.ofExcept _) (fun _ st h => ?_) st h
  refine WindowedWrite.bind (.buildPath k) (fun p st h => ?_) st h
  rw [trace_bind, trace_lift, exec_lift]
  have h0 : Host.trace (Sys.observe p) h = [(.observe p, h)] := rfl
  rw [h0]
  rcases hr : Host.run (Sys.observe p) h with ⟨r, h'⟩
  have hop : h.opened? (.observe p) = r.toOption := by
    show Except.toOption (Host.run (Sys.observe p) h).1 = _
    rw [hr]
  have hobs : Call.IsPrelude (.observe p) := ⟨rfl, rfl, rfl⟩
  cases r with
  | ok hd =>
    -- the file exists: it is replaced, after the calls that choose the bytes
    dsimp only
    rw [trace_bind, trace_pure, exec_pure, List.nil_append]
    dsimp only
    split
    · rw [trace_bind]
      rcases exec isVarfsRoot st h' with ⟨⟨r, st₂⟩, h₂⟩
      cases r with
      | ok b =>
        dsimp only
        split <;>
          rw [trace_bind, trace_pure, exec_pure, List.nil_append] <;>
          exact replace_windowedWrite hop hobs (isVarfsRoot_prelude st h') _ _ _ _ _
      | error _ =>
        refine .of_prelude fun c hc => ?_
        rcases List.mem_cons.mp hc with rfl | hc
        · exact hobs
        · rw [List.append_nil] at hc
          exact isVarfsRoot_prelude st h' c hc
    · rw [trace_bind, trace_pure, exec_pure, List.nil_append]
      exact replace_windowedWrite hop hobs (List.forall_mem_nil _) _ _ _ _ _
  | error e =>
    dsimp only
    split
    · -- no file: it is created in place or staged
      rw [trace_bind, trace_pure, exec_pure, List.nil_append]
      dsimp only
      rw [if_neg (by simp)]
      refine .prepend (fun c hc => by rw [List.mem_singleton.mp hc]; exact hobs) ?_
      refine WindowedWrite.bind (.pure _) (fun bytes st h => ?_) st h'
      refine WindowedWrite.bind isVarfsRoot_prelude (fun b st h => ?_) st h
      split
      · exact createInPlace_windowed p bytes mode st h
      · exact createStaged_windowed p bytes mode st h
    · rw [trace_bind, trace_throw, exec_throw]
      exact .of_prelude fun c hc => by rw [List.mem_singleton.mp hc]; exact hobs

end Store

/-! ## §4. The persistence copy makes no guard call -/

section Unguarded

open StoreM

theorem Store.get_unguarded (k : VarKey) : AllCalls (·.isGuard = false) (Store.get k) := by
  unfold Store.get
  refine .bind (.buildPath k) fun p => .bind (.call (.perform rfl)) fun hd => ?_
  refine .bind (.lift (.perform rfl)) fun r => ?_
  -- each outcome of the header read goes on to the payload read
  split <;> refine .bind ?_ fun _ => .bind (.call (.perform rfl)) fun _ => .pure _
  · exact .pure _
  · exact .throw _
  · exact .throw _

namespace Persist

theorem targetName_unguarded (spec : PersistSpec) :
    AllCalls (·.isGuard = false) (targetName spec) := by
  unfold targetName
  refine .bind (.attempt (Store.get_unguarded _)) fun r => ?_
  cases r with
  | error e => exact .ite (.pure _) (.pure _)
  | ok v => exact .ite (.pure _) (.ite (.pure _) (.pure _))

theorem locateIn_unguarded (rel : Path) (pathMax : Nat) (name : Path) :
    ∀ ms, Host.AllCalls (·.isGuard = false) (locateIn rel pathMax name ms)
  | [] => .pure _
  | m :: ms => by
    unfold locateIn
    dsimp only
    split
    · exact .pure _
    · refine .bind (.perform rfl) fun r => ?_
      split
      · exact .pure _
      · exact locateIn_unguarded rel pathMax name ms

theorem pump_unguarded (ht : Handle) (target : Path) (buf : Bytes) (total : Nat)
    (reads : List (Except OsError Bytes)) :
    AllCalls (·.isGuard = false) (pump ht target buf total reads) := by
  induction reads generalizing buf total with
  | nil => exact .pure _
  | cons r reads ih =>
    rcases r with e | c
    · simp only [pump]
      exact .ite (ih _ _) (.throw _)
    · simp only [pump]
      refine .ite (.pure _) (.bind (.lift (.perform rfl)) fun r => ?_)
      split
      · exact ih _ _
      · exact .throw _

theorem copy_unguarded (spec : PersistSpec) (target : Path) :
    AllCalls (·.isGuard = false) (copy spec target) := by
  unfold copy
  refine .bind .config fun c => ?_
  split
  · exact .pure _
  refine .bind (.lift (.perform rfl)) fun r => ?_
  split
  · exact .pure _
  refine .bind (.lift (.perform rfl)) fun r => ?_
  split
  · exact .pure _
  -- the header read, then the chunked reads and the loop
  refine .bind (.lift (.perform rfl)) fun r => ?_
  split
  · exact .throw _
  · exact .bind (.lift (.perform rfl)) fun reads =>
      .bind (pump_unguarded _ _ _ _ _) fun _ => .pure _

theorem replicate_unguarded (spec : PersistSpec) (op : String) :
    AllCalls (·.isGuard = false) (replicate spec op) := by
  unfold replicate
  dsimp only
  -- a skip is reported as a diagnostic that is not the guard's
  have hskip (r : SkipReason) : AllCalls (·.isGuard = false) (do
      report ⟨op, .persistSkipped, none, (StoreError.persistUnavailable r).message⟩
      pure CopyOutcome.skipped) :=
    .bind (.report rfl) fun _ => .pure _
  refine .bind (targetName_unguarded spec) fun r => ?_
  rcases r with _ | r | name
  · exact .pure _
  · exact hskip r
  refine .bind .config fun c => .bind (.lift (locateIn_unguarded _ _ _ _)) fun r => ?_
  rcases r with r | target
  · exact hskip r
  refine .bind (copy_unguarded spec target) fun r => ?_
  rcases r with r | n
  · exact hskip r
  · exact .pure _

end Persist

theorem Store.persist_unguarded (op : String) : AllCalls (·.isGuard = false) (Store.persist op) := by
  unfold Store.persist
  refine .bind .config fun c => ?_
  split
  · exact .pure _
  refine .bind (.attempt (Persist.replicate_unguarded _ op)) fun r => ?_
  split
  · exact .pure _
  · exact .bind (.lift (.perform rfl)) fun _ => .throw _

end Unguarded

/-! ## §5. Sets and appends -/

/-- What a write does around the immutable bit, from every store and against every host: its
calls are those of a windowed write (`WindowedWrite`), followed by calls none of which belongs
to the guard. -/
def KeepsImmutable (x : StoreM Unit) : Prop :=
  ∀ st h, ∃ tw tp, StoreM.trace x st h = tw ++ tp ∧ WindowedWrite tw ∧
    ∀ c ∈ tp, c.1.isGuard = false

/-- The flag words a write leaves in the host's record: none, the clear of the immutable bit of
the word `w` one of its queries read, or that clear and then `w` again. -/
theorem KeepsImmutable.flagCalls {x : StoreM Unit} (hx : KeepsImmutable x) (st : Store) (h : Host) :
    (StoreM.exec x st h).2.flagCalls = h.flagCalls ∨
      ∃ hd h₀ w, (Call.getFlags hd, h₀) ∈ StoreM.trace x st h ∧ h₀.flagAnswer hd = .ok w ∧
        Guard.isImmutableWord w = true ∧
        ((StoreM.exec x st h).2.flagCalls = h.flagCalls ++ [w &&& ~~~immutableBit] ∨
          (StoreM.exec x st h).2.flagCalls = h.flagCalls ++ [w &&& ~~~immutableBit, w]) := by
  have hrun : (StoreM.exec x st h).2.flagCalls =
      h.flagCalls ++ (StoreM.trace x st h).filterMap (·.1.flagWord?) := Host.run_flagCalls _ h
  obtain ⟨tw, tp, htr, hw, hp⟩ := hx st h
  rw [hrun, htr, List.filterMap_append, flagWords_unguarded hp, List.append_nil]
  rcases hw with hw | ⟨hd, pre, opened, body, closed, post, rfl, hwin, -, hpre, hbody, hpost⟩
  · -- no window: nothing is set
    left
    rw [flagWords_unguarded hw, List.append_nil]
  -- only the window's own calls set words
  have hwords : (pre ++ opened ++ body ++ closed ++ post).filterMap (·.1.flagWord?) =
      (opened ++ closed).filterMap (·.1.flagWord?) := by
    simp only [List.filterMap_append, flagWords_unguarded fun c hc => (hpre c hc).1,
      flagWords_unguarded fun c hc => (hbody c hc).1, flagWords_unguarded fun c hc => (hpost c hc).1,
      List.nil_append, List.append_nil]
  rw [hwords]
  rcases hwin.flagWords with h0 | ⟨h₀, w, hmem, hq, hbit, hws⟩
  · left
    rw [h0, List.append_nil]
  · right
    refine ⟨hd, h₀, w, ?_, hq, hbit, hws.imp (congrArg _) (congrArg _)⟩
    simp only [List.mem_append, hmem, true_or, or_true]

namespace Store

open StoreM

/-- A set and an append each open at most one immutable window, on the descriptor of the file
they observed (a replace) or created (a create), and whatever happens to the host around them.
The window's guard calls go one of the ways of `WindowCalls`: when the bit was cleared, the word
read is set back on the same descriptor before the write returns, on its success and on every
failure, after every write and cut of the file and before the staging file is linked or any name
is unlinked (the staging name, or the file of a failed in-place create). The persistence copy
after the write makes no guard call. -/
theorem set_restores_immutable (k : VarKey) (a : Attributes) (data : Bytes) (mode : Nat) :
    KeepsImmutable (set k a data mode) ∧ KeepsImmutable (append k a data) := by
  have hset (a : Attributes) (mode : Nat) : KeepsImmutable (set k a data mode) := by
    intro st h
    unfold set
    rw [trace_bind]
    refine ⟨_, _, rfl, put_windowedWrite k a data mode st h, fun c hc => ?_⟩
    -- the persistence copy runs only after a write that succeeded
    rcases hr : exec (put k a data mode) st h with ⟨⟨r, st'⟩, h'⟩
    rw [hr] at hc
    cases r with
    | ok _ => exact persist_unguarded "set" st' h' c hc
    | error _ => cases hc
  refine ⟨hset a mode, fun st h => ?_⟩
  unfold append
  rw [trace_bind, trace_config, exec_config, List.nil_append]
  exact hset _ _ st h

end Store

end FirmwareVars
