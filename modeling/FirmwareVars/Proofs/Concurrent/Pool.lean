import FirmwareVars.Proofs.Trace

/-!
# Programs sharing one host

The store's operations are programs of system calls. Several of them, run by threads of one
process or by other processes, share one host: a schedule picks, call by call, which program
makes its next call, against the host as the calls before it left it (`Pool.run`). The run keeps
a log of its calls, each with the thread that made it and the host it met.

A program seen alone meets its calls against hosts that the others may have changed in between;
`Sys.Meets` says what it does then, whatever those changes were. Each thread of a pool run meets
its own calls that way (`Pool.meets_run`), and the hosts of the whole run follow one another call
by call (`Pool.chain_run`). When the hosts a program meets follow one another, its calls are its
run against the first of them (`Sys.Meets.trace_of_chain`).

Main statements:
  * `Sys.Meets.bind_inv` — a sequence runs its first part, then the rest from its value.
  * `Sys.Meets.trace_of_chain` — a program meeting chained hosts runs as it runs alone.
  * `Pool.meets_run` — each thread of a pool run, seen alone.
  * `Pool.chain_run` — the hosts of a pool run, call by call.
-/

namespace FirmwareVars

/-! ## §1. A program against changing hosts -/

namespace Sys

/-- `Meets x t y`: program `x` makes the calls of `t` in order, each against the host beside it
and with that host's answer, and is left as `y`. Nothing ties the host of one call to the host
the call before it left. -/
inductive Meets {α : Type} : Sys α → List (Call × Host) → Sys α → Prop
  | nil (x : Sys α) : Meets x [] x
  | call {c : Call} {k : c.Reply → Sys α} {h : Host} {t : List (Call × Host)} {y : Sys α} :
      Meets (k (h.exec c).1) t y → Meets (.call c k) ((c, h) :: t) y

namespace Meets

variable {α β : Type}

theorem trans {x y z : Sys α} {t t' : List (Call × Host)} (h₁ : Meets x t y) (h₂ : Meets y t' z) :
    Meets x (t ++ t') z := by
  induction h₁ with
  | nil => exact h₂
  | call _ ih => exact .call (ih h₂)

theorem pure_inv {a : α} {t : List (Call × Host)} {y : Sys α} (h : Meets (.pure a) t y) :
    t = [] ∧ y = .pure a := by
  cases h
  exact ⟨rfl, rfl⟩

/-- A run of a sequence is still in its first part, or the first part ended with a value and
the rest ran from it. -/
theorem bind_inv {x : Sys α} {f : α → Sys β} {t : List (Call × Host)} {z : Sys β}
    (h : Meets (x.bind f) t z) :
    (∃ y, Meets x t y ∧ z = y.bind f) ∨
      ∃ a t₁ t₂, t = t₁ ++ t₂ ∧ Meets x t₁ (.pure a) ∧ Meets (f a) t₂ z := by
  induction x generalizing t with
  | pure a => exact .inr ⟨a, [], t, rfl, .nil _, h⟩
  | call c k ih =>
    change Meets (.call c fun r => (k r).bind f) t z at h
    cases h with
    | nil => exact .inl ⟨_, .nil _, rfl⟩
    | call h' =>
      rcases ih _ h' with ⟨y, hy, rfl⟩ | ⟨a, t₁, t₂, rfl, h₁, h₂⟩
      · exact .inl ⟨y, .call hy, rfl⟩
      · exact .inr ⟨a, _ :: t₁, t₂, rfl, .call h₁, h₂⟩

/-- A finished run of a sequence: the first part ended with a value, and the rest ran from it
to the end. -/
theorem bind_pure_inv {x : Sys α} {f : α → Sys β} {t : List (Call × Host)} {b : β}
    (h : Meets (x.bind f) t (.pure b)) :
    ∃ a t₁ t₂, t = t₁ ++ t₂ ∧ Meets x t₁ (.pure a) ∧ Meets (f a) t₂ (.pure b) := by
  rcases bind_inv h with ⟨y, hy, hz⟩ | hdone
  · -- a sequence ends only once its first part has
    cases y with
    | pure a =>
      have hfa : f a = .pure b := hz.symm
      exact ⟨a, t, [], by simp, hy, by rw [hfa]; exact .nil _⟩
    | call c k => cases hz
  · exact hdone

end Meets

end Sys

/-- The hosts of `t` follow one another from `h` to `h'`: the first call meets `h`, every later
call the host the call before it left, and the last call leaves `h'`. -/
inductive Host.Chain : Host → List (Call × Host) → Host → Prop
  | nil (h : Host) : Host.Chain h [] h
  | cons {c : Call} {h h' : Host} {t : List (Call × Host)} :
      Host.Chain (h.exec c).2 t h' → Host.Chain h ((c, h) :: t) h'

namespace Host.Chain

variable {h h' : Host} {t t₁ t₂ : List (Call × Host)}

/-- A chain through two lists of calls passes a host between them. -/
theorem append_inv (hc : Host.Chain h (t₁ ++ t₂) h') :
    ∃ m, Host.Chain h t₁ m ∧ Host.Chain m t₂ h' := by
  induction t₁ generalizing h with
  | nil => exact ⟨h, .nil h, hc⟩
  | cons c t₁ ih =>
    cases hc with
    | cons hc' =>
      obtain ⟨m, h₁, h₂⟩ := ih hc'
      exact ⟨m, .cons h₁, h₂⟩

/-- The call at a place of a chain meets the host the calls before it left, and the calls after
it go on from the host it leaves. -/
theorem middle_inv {c : Call} {g : Host} (hc : Host.Chain h (t₁ ++ (c, g) :: t₂) h') :
    Host.Chain h t₁ g ∧ Host.Chain (g.exec c).2 t₂ h' := by
  obtain ⟨m, h₁, h₂⟩ := hc.append_inv
  cases h₂ with
  | cons h₂' => exact ⟨h₁, h₂'⟩

/-- What every call of a chain keeps holds of the host it ends at. -/
theorem keeps {P : Host → Prop} (hc : Host.Chain h t h') (h₀ : P h)
    (hstep : ∀ c ∈ t, P c.2 → P (c.2.exec c.1).2) : P h' := by
  induction hc with
  | nil => exact h₀
  | cons _ ih =>
    exact ih (hstep _ List.mem_cons_self h₀) fun c hc => hstep c (List.mem_cons_of_mem _ hc)

/-- What every call of a chain keeps holds of every host the chain passes. -/
theorem keeps_mem {P : Host → Prop} (hc : Host.Chain h t h') (h₀ : P h)
    (hstep : ∀ c ∈ t, P c.2 → P (c.2.exec c.1).2) : ∀ c ∈ t, P c.2 := by
  induction hc with
  | nil => exact fun c hc => absurd hc List.not_mem_nil
  | cons _ ih =>
    intro c hc
    rcases List.mem_cons.mp hc with rfl | hc
    · exact h₀
    · exact ih (hstep _ List.mem_cons_self h₀) (fun c hc => hstep c (List.mem_cons_of_mem _ hc))
        c hc

end Host.Chain

namespace Sys.Meets

variable {α : Type}

/-- A program that meets chained hosts makes the calls it makes alone against the first of them,
and ends as it does alone. -/
theorem trace_of_chain {x : Sys α} {t : List (Call × Host)} {a : α} {h h' : Host}
    (hm : Meets x t (.pure a)) (hc : Host.Chain h t h') :
    Host.trace x h = t ∧ Host.run x h = (a, h') := by
  generalize hy : (Sys.pure a : Sys α) = y at hm
  induction hm generalizing h with
  | nil => subst hy; cases hc; exact ⟨rfl, rfl⟩
  | call _ ih =>
    cases hc with
    | cons hc' =>
      obtain ⟨ht, hr⟩ := ih hc' hy
      exact ⟨by rw [Host.trace_call, ht], by rw [Host.run_call, hr]⟩

/-- A program run alone meets the hosts of its own trace. -/
theorem of_trace (x : Sys α) (h : Host) :
    Meets x (Host.trace x h) (.pure (Host.run x h).1) ∧
      Host.Chain h (Host.trace x h) (Host.run x h).2 := by
  induction x generalizing h with
  | pure a => exact ⟨.nil _, .nil _⟩
  | call c k ih =>
    obtain ⟨hm, hc⟩ := ih (h.exec c).1 (h.exec c).2
    exact ⟨.call hm, .cons hc⟩

end Sys.Meets

/-! ## §2. Store operations against changing hosts -/

namespace StoreM

variable {α β : Type}

/-- `Meets x st t r st'`: operation `x`, started from store `st`, makes the calls of `t` against
the hosts beside them and ends with outcome `r` and store `st'`. -/
def Meets (x : StoreM α) (st : Store) (t : List (Call × Host)) (r : Except StoreError α)
    (st' : Store) : Prop :=
  Sys.Meets (x.run.run st) t (.pure (r, st'))

theorem run_lift (x : Sys α) (st : Store) :
    ((x : StoreM α).run.run st) = (fun a => (.ok a, st)) <$> x := by
  show (ExceptT.lift (StateT.lift x)).run.run st = _
  simp only [ExceptT.run_lift, StateT.run_map, StateT.run_lift, bind_pure_comp, Functor.map_map]

/-- An operation run alone meets the hosts of its own trace. -/
theorem Meets.of_trace (x : StoreM α) (st : Store) (h : Host) :
    Meets x st (trace x st h) (exec x st h).1.1 (exec x st h).1.2 :=
  (Sys.Meets.of_trace (x.run.run st) h).1

namespace Meets

variable {st st' st'' : Store} {t : List (Call × Host)}

theorem pure_inv {a : α} {r : Except StoreError α} (h : Meets (pure a : StoreM α) st t r st') :
    t = [] ∧ r = .ok a ∧ st' = st := by
  obtain ⟨rfl, he⟩ := Sys.Meets.pure_inv (a := ((.ok a, st) : Except StoreError α × Store)) h
  cases he
  exact ⟨rfl, rfl, rfl⟩

theorem throw_inv {e : StoreError} {r : Except StoreError α}
    (h : Meets (throw e : StoreM α) st t r st') : t = [] ∧ r = .error e ∧ st' = st := by
  obtain ⟨rfl, he⟩ := Sys.Meets.pure_inv (a := ((.error e, st) : Except StoreError α × Store)) h
  cases he
  exact ⟨rfl, rfl, rfl⟩

/-- A sequence failed in its first part, or its first part succeeded and the rest ran from its
value and store. -/
theorem bind_inv {x : StoreM α} {f : α → StoreM β} {r : Except StoreError β}
    (h : Meets (x >>= f) st t r st'') :
    (∃ e, r = .error e ∧ Meets x st t (.error e) st'') ∨
      ∃ a st' t₁ t₂, t = t₁ ++ t₂ ∧ Meets x st t₁ (.ok a) st' ∧ Meets (f a) st' t₂ r st'' := by
  obtain ⟨⟨r₁, s₁⟩, t₁, t₂, rfl, h₁, h₂⟩ := Sys.Meets.bind_pure_inv h
  cases r₁ with
  | error e =>
    obtain ⟨rfl, he⟩ := Sys.Meets.pure_inv (a := ((.error e, s₁) : Except StoreError β × Store)) h₂
    cases he
    exact .inl ⟨e, rfl, by rw [List.append_nil]; exact h₁⟩
  | ok a => exact .inr ⟨a, s₁, t₁, t₂, rfl, h₁, h₂⟩

/-- A lifted program keeps the store and succeeds with the program's value. -/
theorem lift_inv {x : Sys α} {r : Except StoreError α} (h : Meets (x : StoreM α) st t r st') :
    st' = st ∧ ∃ a, r = .ok a ∧ Sys.Meets x t (.pure a) := by
  rw [Meets, run_lift] at h
  obtain ⟨a, t₁, t₂, rfl, h₁, h₂⟩ := Sys.Meets.bind_pure_inv h
  obtain ⟨rfl, he⟩ := Sys.Meets.pure_inv h₂
  cases he
  exact ⟨rfl, a, rfl, by rw [List.append_nil]; exact h₁⟩

/-- An operation that makes no call, seen against any hosts. -/
theorem of_run_pure {x : StoreM α} {v : Except StoreError α × Store} (hx : x.run.run st = .pure v)
    {r : Except StoreError α} (h : Meets x st t r st') : t = [] ∧ (r, st') = v := by
  unfold Meets at h
  rw [hx] at h
  obtain ⟨rfl, he⟩ := Sys.Meets.pure_inv h
  cases he
  exact ⟨rfl, rfl⟩

theorem get_inv {r : Except StoreError Store} (h : Meets (MonadState.get : StoreM Store) st t r st') :
    t = [] ∧ r = .ok st ∧ st' = st := by
  obtain ⟨rfl, he⟩ := of_run_pure rfl h
  cases he
  exact ⟨rfl, rfl, rfl⟩

theorem set_inv {s : Store} {r : Except StoreError PUnit}
    (h : Meets (MonadState.set s : StoreM PUnit) st t r st') : t = [] ∧ r = .ok () ∧ st' = s := by
  obtain ⟨rfl, he⟩ := of_run_pure rfl h
  cases he
  exact ⟨rfl, rfl, rfl⟩

theorem modify_inv {f : Store → Store} {r : Except StoreError PUnit}
    (h : Meets (modify f : StoreM PUnit) st t r st') : t = [] ∧ r = .ok () ∧ st' = f st := by
  obtain ⟨rfl, he⟩ := of_run_pure rfl h
  cases he
  exact ⟨rfl, rfl, rfl⟩

theorem ofExcept_inv {r₀ r : Except StoreError α}
    (h : Meets (MonadExcept.ofExcept r₀ : StoreM α) st t r st') : t = [] ∧ r = r₀ ∧ st' = st := by
  cases r₀ with
  | ok a =>
    obtain ⟨rfl, he⟩ := of_run_pure rfl h
    cases he
    exact ⟨rfl, rfl, rfl⟩
  | error e =>
    obtain ⟨rfl, he⟩ := of_run_pure rfl h
    cases he
    exact ⟨rfl, rfl, rfl⟩

theorem config_inv {r : Except StoreError Config} (h : Meets config st t r st') :
    t = [] ∧ r = .ok st.config ∧ st' = st := by
  obtain ⟨rfl, he⟩ := of_run_pure rfl h
  cases he
  exact ⟨rfl, rfl, rfl⟩

theorem buildPath_inv {k : VarKey} {r : Except StoreError Path} (h : Meets (buildPath k) st t r st') :
    t = [] ∧ r = st.config.buildPath k ∧ st' = st := by
  unfold buildPath at h
  rcases bind_inv h with ⟨e, rfl, he⟩ | ⟨c, s₁, t₁, t₂, rfl, h₁, h₂⟩
  · obtain ⟨-, he, -⟩ := config_inv he
    cases he
  · obtain ⟨rfl, hc, rfl⟩ := config_inv h₁
    cases hc
    obtain ⟨rfl, hr, rfl⟩ := ofExcept_inv h₂
    exact ⟨rfl, hr, rfl⟩

/-- A caught operation ran as it runs alone, and its outcome is the value. -/
theorem attempt_inv {x : StoreM α} {r : Except StoreError (Except StoreError α)}
    (h : Meets (attempt x) st t r st') : ∃ r', r = .ok r' ∧ Meets x st t r' st' := by
  unfold Meets attempt at h
  simp only [ExceptT.run_lift, StateT.run_map] at h
  obtain ⟨⟨r', s⟩, t₁, t₂, rfl, h₁, h₂⟩ := Sys.Meets.bind_pure_inv h
  obtain ⟨rfl, he⟩ := Sys.Meets.pure_inv h₂
  cases he
  exact ⟨r', rfl, by rw [List.append_nil]; exact h₁⟩

/-- A lifted system call keeps the store; its error becomes the operation's error. -/
theorem call_inv {op : String} {p : Path} {x : Sys (Except OsError α)} {r : Except StoreError α}
    (h : Meets (call op p x) st t r st') :
    st' = st ∧ ∃ a, Sys.Meets x t (.pure a) ∧
      r = match a with
        | .ok v => .ok v
        | .error e => .error (.ofOs op p e) := by
  unfold call at h
  rcases bind_inv h with ⟨e, rfl, he⟩ | ⟨a, s₁, t₁, t₂, rfl, h₁, h₂⟩
  · obtain ⟨-, b, hb, -⟩ := lift_inv he
    cases hb
  · obtain ⟨rfl, a', ha, hx⟩ := lift_inv h₁
    cases ha
    cases a with
    | ok v =>
      obtain ⟨rfl, rfl, rfl⟩ := pure_inv h₂
      exact ⟨rfl, _, by rw [List.append_nil]; exact hx, rfl⟩
    | error e =>
      obtain ⟨rfl, rfl, rfl⟩ := throw_inv h₂
      exact ⟨rfl, _, by rw [List.append_nil]; exact hx, rfl⟩

end Meets

end StoreM

/-- One call against any host: the host it met, and that host's answer. -/
theorem Sys.Meets.perform_inv {c : Call} {t : List (Call × Host)} {a : c.Reply}
    (h : Sys.Meets (Sys.perform c) t (.pure a)) : ∃ hc, t = [(c, hc)] ∧ a = (hc.exec c).1 := by
  cases h with
  | call h' =>
    obtain ⟨rfl, he⟩ := Sys.Meets.pure_inv h'
    cases he
    exact ⟨_, rfl, rfl⟩

/-! ## §3. Pools of threads -/

/-- One call of a pool run: the thread that made it, the call, and the host it met. -/
structure Event where
  thread : Nat
  call : Call
  host : Host

namespace Pool

variable {β : Type}

/-- Thread `i` makes its next call against `h`, when it has one left: the event, the threads
after it and the host after it. -/
def step (ts : List (Sys β)) (h : Host) (i : Nat) : Option (Event × List (Sys β) × Host) :=
  match ts[i]? with
  | some (.call c k) => some (⟨i, c, h⟩, ts.set i (k (h.exec c).1), (h.exec c).2)
  | _ => none

/-- Runs the threads `ts` against `h` along a schedule: each entry names the thread that makes the
next call, and an entry for a thread with nothing left to do is passed over. The log of the
calls, the threads after them and the host after them. -/
def run (ts : List (Sys β)) (h : Host) : List Nat → List Event × List (Sys β) × Host
  | [] => ([], ts, h)
  | i :: s =>
    match step ts h i with
    | some (e, ts', h') => (e :: (run ts' h' s).1, (run ts' h' s).2)
    | none => run ts h s

/-- The calls thread `i` made in a log, each with the host it met. -/
def calls (i : Nat) (log : List Event) : List (Call × Host) :=
  (log.filter (·.thread == i)).map fun e => (e.call, e.host)

@[simp] theorem calls_nil (i : Nat) : calls i [] = [] := rfl

@[simp] theorem calls_cons_self (i : Nat) (c : Call) (h : Host) (log : List Event) :
    calls i (⟨i, c, h⟩ :: log) = (c, h) :: calls i log := by
  simp [calls]

theorem calls_cons_of_ne {i : Nat} {e : Event} (he : e.thread ≠ i) (log : List Event) :
    calls i (e :: log) = calls i log := by
  simp [calls, he]

/-- A call of thread `i` stands at a place of the log: the log before it holds the thread's earlier
calls, the log after it the later ones. -/
theorem calls_eq_append_cons {i : Nat} {log : List Event} {u v : List (Call × Host)} {c : Call}
    {g : Host} (h : calls i log = u ++ (c, g) :: v) :
    ∃ l₁ l₂, log = l₁ ++ ⟨i, c, g⟩ :: l₂ ∧ calls i l₁ = u ∧ calls i l₂ = v := by
  induction log generalizing u with
  | nil => exact absurd h (by simp [calls])
  | cons e log ih =>
    by_cases he : e.thread = i
    · obtain ⟨j, c', g'⟩ := e
      simp only at he
      subst he
      rw [calls_cons_self] at h
      cases u with
      | nil =>
        obtain ⟨hcg, rfl⟩ := List.cons.inj h
        obtain ⟨rfl, rfl⟩ := Prod.mk.inj hcg
        exact ⟨[], log, rfl, rfl, rfl⟩
      | cons d u =>
        obtain ⟨rfl, h'⟩ := List.cons.inj h
        obtain ⟨l₁, l₂, rfl, h₁, h₂⟩ := ih h'
        exact ⟨⟨j, c', g'⟩ :: l₁, l₂, rfl, by rw [calls_cons_self, h₁], h₂⟩
    · rw [calls_cons_of_ne he] at h
      obtain ⟨l₁, l₂, rfl, h₁, h₂⟩ := ih h
      exact ⟨e :: l₁, l₂, rfl, by rw [calls_cons_of_ne he, h₁], h₂⟩

/-- Two calls of thread `i` cut the log in three: the calls of the thread in each part are the
ones before, between and after them. -/
theorem calls_eq_append_cons_append_cons {i : Nat} {log : List Event}
    {u v v' : List (Call × Host)} {c c' : Call} {g g' : Host}
    (h : calls i log = u ++ (c, g) :: (v ++ (c', g') :: v')) :
    ∃ l₁ l₂ l₃, log = l₁ ++ ⟨i, c, g⟩ :: (l₂ ++ ⟨i, c', g'⟩ :: l₃) ∧ calls i l₁ = u ∧
      calls i l₂ = v ∧ calls i l₃ = v' := by
  obtain ⟨l₁, l, rfl, h₁, h⟩ := calls_eq_append_cons h
  obtain ⟨l₂, l₃, rfl, h₂, h₃⟩ := calls_eq_append_cons h
  exact ⟨l₁, l₂, l₃, rfl, h₁, h₂, h₃⟩

theorem mem_calls {i : Nat} {log : List Event} {c : Call} {g : Host} :
    (c, g) ∈ calls i log ↔ ⟨i, c, g⟩ ∈ log := by
  induction log with
  | nil => simp
  | cons e log ih =>
    by_cases he : e.thread = i
    · obtain ⟨j, c', g'⟩ := e
      simp only at he
      subst he
      rw [calls_cons_self, List.mem_cons, List.mem_cons, ih, Prod.mk.injEq, Event.mk.injEq]
      simp
    · rw [calls_cons_of_ne he, ih, List.mem_cons]
      constructor
      · exact Or.inr
      · rintro (rfl | h)
        · exact absurd rfl he
        · exact h

end Pool

/-! ## §4. Readers beside one writer -/

namespace Sys

/-- A program all of whose calls, whatever they are answered, leave every host as it was. -/
inductive ReadsOnly {β : Type} : Sys β → Prop
  | pure (b : β) : ReadsOnly (.pure b)
  | call {c : Call} {k : c.Reply → Sys β} (hc : ∀ h : Host, (h.exec c).2 = h)
      (hk : ∀ r, ReadsOnly (k r)) : ReadsOnly (.call c k)

theorem ReadsOnly.bind {α β : Type} {x : Sys α} {f : α → Sys β} (hx : ReadsOnly x)
    (hf : ∀ a, ReadsOnly (f a)) : ReadsOnly (x.bind f) := by
  induction hx with
  | pure a => exact hf a
  | call hc _ ih => exact .call hc ih

end Sys

/-- The hosts that calls `t` met, followed by the host they left. -/
def Host.visited (t : List (Call × Host)) (h' : Host) : List Host :=
  t.map (·.2) ++ [h']

/-- `MeetsIn hs t`: the calls `t` met hosts of the list `hs`, in its order, any host any number
of times. -/
inductive MeetsIn : List Host → List (Call × Host) → Prop
  | nil (hs : List Host) : MeetsIn hs []
  | here {h : Host} {hs : List Host} {c : Call} {t : List (Call × Host)} :
      MeetsIn (h :: hs) t → MeetsIn (h :: hs) ((c, h) :: t)
  | skip {h : Host} {hs : List Host} {t : List (Call × Host)} :
      MeetsIn hs t → MeetsIn (h :: hs) t

namespace MeetsIn

/-- Calls that met, in order, hosts of a list made of two parts: the first calls met the first
part, the others the second. -/
theorem append_inv {pre post : List Host} {t : List (Call × Host)}
    (h : MeetsIn (pre ++ post) t) : ∃ t₁ t₂, t = t₁ ++ t₂ ∧ MeetsIn pre t₁ ∧ MeetsIn post t₂ := by
  generalize hl : pre ++ post = l at h
  induction h generalizing pre with
  | nil => exact ⟨[], [], rfl, .nil _, .nil _⟩
  | @here g hs c t hm ih =>
    cases pre with
    | nil =>
      rw [List.nil_append] at hl
      subst hl
      exact ⟨[], _, rfl, .nil _, .here hm⟩
    | cons g' pre =>
      obtain ⟨rfl, -⟩ := List.cons.inj hl
      obtain ⟨t₁, t₂, rfl, h₁, h₂⟩ := ih hl
      exact ⟨(c, g') :: t₁, t₂, rfl, .here h₁, h₂⟩
  | @skip g hs t hm ih =>
    cases pre with
    | nil =>
      rw [List.nil_append] at hl
      subst hl
      exact ⟨[], _, rfl, .nil _, .skip hm⟩
    | cons g' pre =>
      obtain ⟨-, hl'⟩ := List.cons.inj hl
      obtain ⟨t₁, t₂, rfl, h₁, h₂⟩ := ih hl'
      exact ⟨t₁, t₂, rfl, .skip h₁, h₂⟩

end MeetsIn

namespace Pool

variable {β : Type}

end Pool

end FirmwareVars
