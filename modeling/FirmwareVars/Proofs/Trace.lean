import FirmwareVars.Proofs.Run

/-!
# The calls of a run

Running a program against a host makes its calls one after another. `Host.trace` lists them,
each with the host it meets, so that what a run does can be said call by call: which descriptor
it writes through, what it links or removes and when, which flag words it sets. A trace is read
off the program as the run is: a sequence makes the calls of its first part and then those of
the rest (`trace_bind`), and a store operation stops making calls at its first error
(`StoreM.trace_bind`).

The host keeps a record of the flag words set and of the events reported; both are the
corresponding calls of the trace (`run_flagCalls`, `run_notes`).
-/

namespace FirmwareVars

/-! ## §1. Traces of programs -/

namespace Host

/-- The calls a program makes against a host, in order, each with the host it meets. -/
def trace {α : Type} : Sys α → Host → List (Call × Host)
  | .pure _, _ => []
  | .call c k, h => (c, h) :: trace (k (h.exec c).1) (h.exec c).2

@[simp] theorem trace_pure {α : Type} (a : α) (h : Host) : trace (Sys.pure a) h = [] := rfl

@[simp] theorem trace_call {α : Type} (c : Call) (k : c.Reply → Sys α) (h : Host) :
    trace (Sys.call c k) h = (c, h) :: trace (k (h.exec c).1) (h.exec c).2 := rfl

@[simp] theorem trace_perform (c : Call) (h : Host) : trace (Sys.perform c) h = [(c, h)] := rfl

/-- A sequence makes the calls of its first part, then those of the rest from where the first
part left the host. -/
theorem trace_bind {α β : Type} (x : Sys α) (f : α → Sys β) (h : Host) :
    trace (x >>= f) h = trace x h ++ trace (f (run x h).1) (run x h).2 := by
  induction x generalizing h with
  | pure a => rfl
  | call c k ih =>
    show (c, h) :: trace ((k (h.exec c).1) >>= f) (h.exec c).2 = _
    rw [ih]
    rfl

theorem trace_map {α β : Type} (f : α → β) (x : Sys α) (h : Host) :
    trace (f <$> x) h = trace x h := by
  rw [← bind_pure_comp, trace_bind]
  exact List.append_nil _

end Host

/-! ## §2. The records a host keeps -/

/-- The flag word a call sets, if it is a call that sets one. -/
def Call.flagWord? : Call → Option UInt32
  | .setFlags _ w => some w
  | _ => none

/-- The event a call reports, if it is a report. -/
def Call.note? : Call → Option Note
  | .note n => some n
  | _ => none

namespace Host

/-- The other actor changes the tree and its own log, nothing the program records. -/
theorem fire_records (h : Host) (pt : Point) (p s : Path) :
    (h.fire pt p s).flagCalls = h.flagCalls ∧ (h.fire pt p s).notes = h.notes := by
  unfold fire
  split
  · split
    · exact ⟨rfl, rfl⟩
    · exact ⟨rfl, rfl⟩
  · exact ⟨rfl, rfl⟩

theorem openAt_records (h : Host) (p : Path) (m : OpenMode) :
    (h.openAt p m).2.flagCalls = h.flagCalls ∧ (h.openAt p m).2.notes = h.notes := by
  unfold openAt
  split <;> exact ⟨rfl, rfl⟩

theorem reopen_records (h : Host) (p : Path) (m : OpenMode) :
    (h.reopen p m).2.flagCalls = h.flagCalls ∧ (h.reopen p m).2.notes = h.notes := by
  unfold reopen
  rcases ho : h.openAt p m with ⟨r, h'⟩
  have hh := openAt_records h p m
  rw [ho] at hh
  -- every handover opens again or removes a name, and records nothing
  have hro := openAt_records h' p .read
  rcases hr : h'.openAt p .read with ⟨r', h''⟩
  rw [hr] at hro
  cases r with
  | error e => exact hh
  | ok hd =>
    simp only
    split
    · exact hh
    · rw [hr]
      exact ⟨hro.1.trans hh.1, hro.2.trans hh.2⟩
    · rw [hr]
      cases r' with
      | error e => exact ⟨hro.1.trans hh.1, hro.2.trans hh.2⟩
      | ok ro =>
        simp only
        split <;> exact ⟨hro.1.trans hh.1, hro.2.trans hh.2⟩

theorem change_records (h : Host) (r : Except OsError Fs) :
    (h.change r).2.flagCalls = h.flagCalls ∧ (h.change r).2.notes = h.notes := by
  unfold change
  split <;> exact ⟨rfl, rfl⟩

/-- One call adds to the records exactly the flag word it sets and the event it reports. -/
theorem exec_records (h : Host) (c : Call) :
    (h.exec c).2.flagCalls = h.flagCalls ++ c.flagWord?.toList ∧
      (h.exec c).2.notes = h.notes ++ c.note?.toList := by
  cases c with
  | openPath p m => simpa [exec, Call.flagWord?, Call.note?] using openAt_records h p m
  | observe p =>
    have hf := fire_records h .observe p p
    have ho := openAt_records (h.fire .observe p p) p .read
    exact ⟨by simpa [exec, Call.flagWord?, hf.1] using ho.1, by simpa [exec, Call.note?, hf.2] using ho.2⟩
  | reopen p m =>
    have hf := fire_records h .reopen p p
    have ho := reopen_records (h.fire .reopen p p) p m
    exact ⟨by simpa [exec, Call.flagWord?, hf.1] using ho.1, by simpa [exec, Call.note?, hf.2] using ho.2⟩
  | publish s t =>
    have hf := fire_records h .publish t s
    have ho := change_records (h.fire .publish t s) ((h.fire .publish t s).fs.link s t)
    exact ⟨by simpa [exec, Call.flagWord?, hf.1] using ho.1, by simpa [exec, Call.note?, hf.2] using ho.2⟩
  | unlink p => simpa [exec, Call.flagWord?, Call.note?] using change_records h (h.fs.unlink p)
  | chmod p m => simpa [exec, Call.flagWord?, Call.note?] using change_records h (h.fs.chmod p m)
  | setFlags hd w =>
    simp only [exec]
    split <;> simp [Call.flagWord?, Call.note?]
  | note n => simp [exec, Call.flagWord?, Call.note?]
  | read hd off len =>
    simp only [exec]
    split <;> simp [Call.flagWord?, Call.note?]
  | readChunks hd off size =>
    simp only [exec]
    split <;> simp [Call.flagWord?, Call.note?]
  | write hd off bs =>
    simp only [exec]
    split <;> simp [Call.flagWord?, Call.note?]
  | truncate hd n =>
    simp only [exec]
    split <;> simp [Call.flagWord?, Call.note?]
  | stat p => simp [exec, Call.flagWord?, Call.note?]
  | readDir p => simp [exec, Call.flagWord?, Call.note?]
  | statfs p => simp [exec, Call.flagWord?, Call.note?]
  | getFlags hd =>
    simp only [exec]
    split <;> simp [Call.flagWord?, Call.note?]

/-- No call changes how the flag store behaves. -/
theorem exec_flagPolicy (h : Host) (c : Call) : (h.exec c).2.flagPolicy = h.flagPolicy := by
  have hfire : ∀ (pt : Point) (p s : Path), (h.fire pt p s).flagPolicy = h.flagPolicy := by
    intro pt p s
    unfold fire
    split
    · split <;> rfl
    · rfl
  have hopen : ∀ (h' : Host) (p : Path) (m : OpenMode), (h'.openAt p m).2.flagPolicy = h'.flagPolicy := by
    intro h' p m
    unfold openAt
    split <;> rfl
  have hchange : ∀ (h' : Host) (r : Except OsError Fs), (h'.change r).2.flagPolicy = h'.flagPolicy := by
    intro h' r
    unfold change
    split <;> rfl
  cases c with
  | openPath p m => exact hopen h p m
  | observe p => exact (hopen _ p .read).trans (hfire .observe p p)
  | reopen p m =>
    -- every handover opens again, and may remove the name
    show ((h.fire .reopen p p).reopen p m).2.flagPolicy = _
    rw [← hfire .reopen p p]
    unfold reopen
    rcases ho : (h.fire .reopen p p).openAt p m with ⟨r, h'⟩
    have hh := hopen (h.fire .reopen p p) p m
    rw [ho] at hh
    rcases hr : h'.openAt p .read with ⟨r', h''⟩
    have hh' := hopen h' p .read
    rw [hr] at hh'
    cases r with
    | error e => exact hh
    | ok hd =>
      simp only
      split
      · exact hh
      · rw [hr]
        exact hh'.trans hh
      · rw [hr]
        cases r' with
        | error e => exact hh'.trans hh
        | ok ro =>
          simp only
          split <;> exact hh'.trans hh
  | publish s t => exact (hchange _ _).trans (hfire .publish t s)
  | unlink p => exact hchange h _
  | chmod p m => exact hchange h _
  | setFlags hd w =>
    simp only [exec]
    split <;> rfl
  | read hd off len =>
    simp only [exec]
    split <;> rfl
  | readChunks hd off size =>
    simp only [exec]
    split <;> rfl
  | write hd off bs =>
    simp only [exec]
    split <;> rfl
  | truncate hd n =>
    simp only [exec]
    split <;> rfl
  | getFlags hd =>
    simp only [exec]
    split <;> rfl
  | note n => rfl
  | stat p => rfl
  | readDir p => rfl
  | statfs p => rfl

theorem run_flagPolicy {α : Type} (x : Sys α) (h : Host) : (run x h).2.flagPolicy = h.flagPolicy := by
  induction x generalizing h with
  | pure a => rfl
  | call c k ih => exact (ih _ _).trans (exec_flagPolicy h c)

/-- The flag words a run leaves in the record are those of its calls that set one. -/
theorem run_flagCalls {α : Type} (x : Sys α) (h : Host) :
    (run x h).2.flagCalls = h.flagCalls ++ (trace x h).filterMap (·.1.flagWord?) := by
  induction x generalizing h with
  | pure a => simp
  | call c k ih =>
    rw [run_call, ih, trace_call, (exec_records h c).1, List.filterMap_cons]
    cases c.flagWord? <;> simp

/-- The events a run leaves in the record are those of its reports. -/
theorem run_notes {α : Type} (x : Sys α) (h : Host) :
    (run x h).2.notes = h.notes ++ (trace x h).filterMap (·.1.note?) := by
  induction x generalizing h with
  | pure a => simp
  | call c k ih =>
    rw [run_call, ih, trace_call, (exec_records h c).2, List.filterMap_cons]
    cases c.note? <;> simp

end Host

/-! ## §3. Traces of store operations -/

namespace StoreM

open Host

/-- The calls a store operation makes against a host from store state `st`. -/
def trace {α : Type} (x : StoreM α) (st : Store) (h : Host) : List (Call × Host) :=
  Host.trace (x.run.run st) h

variable {α β : Type}

@[simp] theorem trace_pure (a : α) (st : Store) (h : Host) :
    trace (pure a : StoreM α) st h = [] := rfl

@[simp] theorem trace_throw (e : StoreError) (st : Store) (h : Host) :
    trace (throw e : StoreM α) st h = [] := rfl

/-- A sequence makes the calls of its first part and, when that succeeded, those of the rest. -/
theorem trace_bind (x : StoreM α) (f : α → StoreM β) (st : Store) (h : Host) :
    trace (x >>= f) st h =
      trace x st h ++
        match exec x st h with
        | ((.ok a, st'), h') => trace (f a) st' h'
        | ((.error _, _), _) => [] := by
  show Host.trace ((x.run.run st) >>= _) h = _
  rw [Host.trace_bind]
  simp only [trace, exec]
  rcases Host.run (x.run.run st) h with ⟨⟨r, st'⟩, h'⟩
  cases r <;> rfl

@[simp] theorem trace_lift (x : Sys α) (st : Store) (h : Host) :
    trace (x : StoreM α) st h = Host.trace x h := by
  unfold trace
  show Host.trace (ExceptT.run (ExceptT.lift (StateT.lift x)) |>.run st) h = _
  simp only [ExceptT.run_lift, StateT.run_map, StateT.run_lift, Host.trace_map, Host.trace_bind]
  exact List.append_nil _

theorem trace_attempt (x : StoreM α) (st : Store) (h : Host) :
    trace (attempt x) st h = trace x st h := by
  unfold trace attempt
  simp only [ExceptT.run_lift, StateT.run_map, Host.trace_map]

@[simp] theorem trace_get (st : Store) (h : Host) :
    trace (MonadState.get : StoreM Store) st h = [] := rfl

@[simp] theorem trace_set (st st' : Store) (h : Host) :
    trace (MonadState.set st' : StoreM Unit) st h = [] := rfl

@[simp] theorem trace_modify (f : Store → Store) (st : Store) (h : Host) :
    trace (modify f : StoreM Unit) st h = [] := rfl

@[simp] theorem trace_ofExcept (r : Except StoreError α) (st : Store) (h : Host) :
    trace (MonadExcept.ofExcept r : StoreM α) st h = [] := by
  cases r <;> rfl

theorem trace_call (op : String) (p : Path) (x : Sys (Except OsError α)) (st : Store) (h : Host) :
    trace (call op p x) st h = Host.trace x h := by
  unfold call
  rw [trace_bind, trace_lift, exec_lift]
  cases (Host.run x h).1 <;> exact List.append_nil _

@[simp] theorem trace_config (st : Store) (h : Host) : trace config st h = [] := rfl

theorem trace_buildPath (k : VarKey) (st : Store) (h : Host) : trace (buildPath k) st h = [] := by
  unfold buildPath
  rw [trace_bind, trace_config, exec_config]
  exact trace_ofExcept _ st h

theorem exec_flagPolicy (x : StoreM α) (st : Store) (h : Host) :
    (exec x st h).2.flagPolicy = h.flagPolicy :=
  Host.run_flagPolicy _ h

@[simp] theorem trace_report (d : Diagnostic) (st : Store) (h : Host) :
    trace (report d) st h = [(.note (.diagnostic d), h)] := rfl

end StoreM

/-! ## §4. What every call does -/

namespace Host

/-- Every call `x` makes, against any host, satisfies `P`. -/
def AllCalls {α : Type} (P : Call → Prop) (x : Sys α) : Prop :=
  ∀ h, ∀ ch ∈ trace x h, P ch.1

namespace AllCalls

variable {α β : Type} {P : Call → Prop}

theorem pure (a : α) : AllCalls P (Sys.pure a) := by
  intro h ch hch
  cases hch

theorem perform {c : Call} (hc : P c) : AllCalls P (Sys.perform c) := by
  intro h ch hch
  rw [trace_perform, List.mem_singleton] at hch
  rw [hch]
  exact hc

theorem bind {x : Sys α} {f : α → Sys β} (hx : AllCalls P x) (hf : ∀ a, AllCalls P (f a)) :
    AllCalls P (x >>= f) := by
  intro h ch hch
  rw [trace_bind, List.mem_append] at hch
  rcases hch with hch | hch
  · exact hx h ch hch
  · exact hf _ _ ch hch

end AllCalls

end Host

namespace StoreM

/-- Every call `x` makes, from any store and against any host, satisfies `P`. -/
def AllCalls {α : Type} (P : Call → Prop) (x : StoreM α) : Prop :=
  ∀ st h, ∀ ch ∈ trace x st h, P ch.1

namespace AllCalls

variable {α β : Type} {P : Call → Prop}

theorem pure (a : α) : AllCalls P (Pure.pure a : StoreM α) := by
  intro st h ch hch
  cases hch

theorem throw (e : StoreError) : AllCalls P (MonadExcept.throw e : StoreM α) := by
  intro st h ch hch
  cases hch

theorem lift {x : Sys α} (hx : Host.AllCalls P x) : AllCalls P (x : StoreM α) := by
  intro st h ch hch
  rw [trace_lift] at hch
  exact hx h ch hch

theorem bind {x : StoreM α} {f : α → StoreM β} (hx : AllCalls P x)
    (hf : ∀ a, AllCalls P (f a)) : AllCalls P (x >>= f) := by
  intro st h ch hch
  rw [trace_bind, List.mem_append] at hch
  rcases hch with hch | hch
  · exact hx st h ch hch
  · -- the rest runs only after a success
    rcases hr : exec x st h with ⟨⟨r, st'⟩, h'⟩
    rw [hr] at hch
    cases r with
    | ok a => exact hf a st' h' ch hch
    | error e => cases hch

theorem attempt {x : StoreM α} (hx : AllCalls P x) : AllCalls P (StoreM.attempt x) := by
  intro st h ch hch
  rw [trace_attempt] at hch
  exact hx st h ch hch

theorem call {op : String} {p : Path} {x : Sys (Except OsError α)} (hx : Host.AllCalls P x) :
    AllCalls P (StoreM.call op p x) := by
  intro st h ch hch
  rw [trace_call] at hch
  exact hx h ch hch

theorem ofExcept (r : Except StoreError α) : AllCalls P (MonadExcept.ofExcept r : StoreM α) := by
  intro st h ch hch
  rw [trace_ofExcept] at hch
  cases hch

theorem get : AllCalls P (MonadState.get : StoreM Store) := by
  intro st h ch hch
  cases hch

theorem modify (f : Store → Store) : AllCalls P (modify f : StoreM Unit) := by
  intro st h ch hch
  cases hch

theorem config : AllCalls P StoreM.config := by
  intro st h ch hch
  cases hch

theorem buildPath (k : VarKey) : AllCalls P (StoreM.buildPath k) := by
  intro st h ch hch
  rw [trace_buildPath] at hch
  cases hch

theorem report {d : Diagnostic} (hd : P (.note (.diagnostic d))) :
    AllCalls P (StoreM.report d) :=
  lift (.perform hd)

end AllCalls

end StoreM

end FirmwareVars
