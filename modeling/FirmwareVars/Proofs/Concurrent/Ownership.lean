import FirmwareVars.Proofs.Concurrent.Pool
import FirmwareVars.Proofs.Store.Immutable

/-!
# What a write changes while others act

A write takes no lock, so other actors may create, remove, replace or rewrite the variable's file
between any two of its calls. What keeps their files safe is ownership: a write changes only what
it can tell is its own. It writes, cuts and flags only an inode that it observed at its start or
created itself with an exclusive create, and it links, removes or changes the mode of only a name
it created itself that way; no open of it truncates. `OwnedCalls` says this of a list of calls,
each judged against the calls made before it, in the way `Call.Owned` lays down.

The statements hold for every run against changing hosts (`StoreM.Meets`): the host a call meets
is arbitrary, so every action of every other actor between two calls is covered. The hosts are
only asked to be quiet, so that each call does what its name says and nothing on another actor's
behalf.

Main statements:
  * `OwnedCalls.append` — ownership of a sequence from ownership of its parts.
  * `Store.put_owning` — a write without its persistence copy changes only what it owns.
-/

namespace FirmwareVars

/-! ## §1. Calls and what they change -/

namespace Call

/-- The inode a call changes through a descriptor: its content, its length or its flag word. -/
def changedIno? : Call → Option Nat
  | .write hd _ _ | .truncate hd _ | .setFlags hd _ => some hd.ino
  | _ => none

/-- The existing name a call links elsewhere, removes or changes the mode of. -/
def changedName? : Call → Option Path
  | .publish q _ | .unlink q | .chmod q _ => some q
  | _ => none

/-- Whether a call is an open that cuts an existing file to nothing. -/
def truncatesOnOpen : Call → Bool
  | .openPath _ .createTruncate | .reopen _ .createTruncate => true
  | _ => false

end Call

/-- Inode `i` was handed back by one of the calls `pre`: observed, or created exclusively. -/
def OpenedIn (pre : List (Call × Host)) (i : Nat) : Prop :=
  ∃ c ∈ pre, (c.2.opened? c.1).map Handle.ino = some i

/-- Name `q` was created exclusively, and successfully, by one of the calls `pre`. -/
def CreatedIn (pre : List (Call × Host)) (q : Path) : Prop :=
  ∃ c ∈ pre, ∃ m, c.1 = .reopen q (.createNew m) ∧ (c.2.opened? c.1).isSome

/-- What call `c` changes is owned, given the calls `pre` made before it: an inode it changes was
opened by one of them, a name it changes was created by one of them, and it is no truncating
open. Every other call changes nothing that exists: it reads, or it creates a name exclusively. -/
structure Call.Owned (pre : List (Call × Host)) (c : Call) : Prop where
  keepsOnOpen : c.truncatesOnOpen = false
  ino : ∀ i, c.changedIno? = some i → OpenedIn pre i
  name : ∀ q, c.changedName? = some q → CreatedIn pre q

/-- Every call of `t` changes only what it owns, judged against the calls `pre` made before `t`
and the calls of `t` before it. -/
def OwnedCalls (pre t : List (Call × Host)) : Prop :=
  ∀ t₁ c t₂, t = t₁ ++ c :: t₂ → c.1.Owned (pre ++ t₁)

section Ownership

variable {pre pre' t t₁ t₂ : List (Call × Host)}

theorem OpenedIn.mono (hsub : ∀ c ∈ pre, c ∈ pre') {i : Nat} (h : OpenedIn pre i) :
    OpenedIn pre' i := by
  obtain ⟨c, hc, hi⟩ := h
  exact ⟨c, hsub c hc, hi⟩

theorem CreatedIn.mono (hsub : ∀ c ∈ pre, c ∈ pre') {q : Path} (h : CreatedIn pre q) :
    CreatedIn pre' q := by
  obtain ⟨c, hc, hq⟩ := h
  exact ⟨c, hsub c hc, hq⟩

theorem Call.Owned.mono (hsub : ∀ c ∈ pre, c ∈ pre') {c : Call} (h : c.Owned pre) :
    c.Owned pre' :=
  ⟨h.keepsOnOpen, fun i hi => (h.ino i hi).mono hsub, fun q hq => (h.name q hq).mono hsub⟩

/-- A call that changes nothing that exists is owned whatever came before it. -/
theorem Call.Owned.of_keeps {c : Call} (ho : c.truncatesOnOpen = false)
    (hi : c.changedIno? = none) (hn : c.changedName? = none) : c.Owned pre :=
  ⟨ho, (fun i h => by rw [hi] at h; cases h), (fun q h => by rw [hn] at h; cases h)⟩

/-- A call that changes an inode opened before it, and nothing else. -/
theorem Call.Owned.of_ino {c : Call} {i : Nat} (hop : OpenedIn pre i) (hi : c.changedIno? = some i)
    (hn : c.changedName? = none) (ho : c.truncatesOnOpen = false) : c.Owned pre :=
  ⟨ho, (fun j h => by rw [hi] at h; cases h; exact hop), (fun q h => by rw [hn] at h; cases h)⟩

/-- A call that changes a name created before it, and nothing else. -/
theorem Call.Owned.of_name {c : Call} {q : Path} (hcr : CreatedIn pre q)
    (hn : c.changedName? = some q) (hi : c.changedIno? = none) (ho : c.truncatesOnOpen = false) :
    c.Owned pre :=
  ⟨ho, (fun j h => by rw [hi] at h; cases h), (fun q' h => by rw [hn] at h; cases h; exact hcr)⟩

theorem OwnedCalls.nil : OwnedCalls pre [] := by
  intro t₁ c t₂ h
  exact absurd h.symm (List.append_ne_nil_of_right_ne_nil _ (List.cons_ne_nil _ _))

theorem OwnedCalls.cons {c : Call × Host} (hc : c.1.Owned pre) (ht : OwnedCalls (pre ++ [c]) t) :
    OwnedCalls pre (c :: t) := by
  intro t₁ d t₂ h
  cases t₁ with
  | nil =>
    obtain ⟨rfl, -⟩ := List.cons.inj h
    rw [List.append_nil]
    exact hc
  | cons c' t₁ =>
    obtain ⟨rfl, h'⟩ := List.cons.inj h
    have := ht t₁ d t₂ h'
    rwa [List.append_assoc, List.singleton_append] at this

theorem OwnedCalls.tail {c : Call × Host} (h : OwnedCalls pre (c :: t)) :
    c.1.Owned pre ∧ OwnedCalls (pre ++ [c]) t := by
  refine ⟨by simpa using h [] c t rfl, fun t₁ d t₂ ht => ?_⟩
  have := h (c :: t₁) d t₂ (by rw [ht]; rfl)
  rwa [List.append_assoc, List.singleton_append]

/-- Ownership of a sequence: its first part is owned after `pre`, and the rest after `pre` and
the first part. The induction runs along the first part. -/
theorem OwnedCalls.append (h₁ : OwnedCalls pre t₁) (h₂ : OwnedCalls (pre ++ t₁) t₂) :
    OwnedCalls pre (t₁ ++ t₂) := by
  induction t₁ generalizing pre with
  | nil => simpa using h₂
  | cons c t₁ ih =>
    obtain ⟨hc, ht⟩ := h₁.tail
    refine .cons hc (ih ht ?_)
    rwa [List.append_assoc, List.singleton_append]

theorem OwnedCalls.mono (hsub : ∀ c ∈ pre, c ∈ pre') (h : OwnedCalls pre t) :
    OwnedCalls pre' t := by
  intro t₁ c t₂ ht
  refine (h t₁ c t₂ ht).mono fun x hx => ?_
  rcases List.mem_append.mp hx with hx | hx
  · exact List.mem_append_left _ (hsub x hx)
  · exact List.mem_append_right _ hx

/-- Calls each owned after `pre` alone are owned after `pre` and one another. -/
theorem OwnedCalls.of_forall (h : ∀ c ∈ t, c.1.Owned pre) : OwnedCalls pre t := by
  intro t₁ c t₂ ht
  exact (h c (by rw [ht]; simp)).mono fun x hx => List.mem_append_left _ hx

end Ownership

/-! ## §2. Every call of every run -/

namespace Sys

/-- Every call of every run of `x`, against any hosts, satisfies `P`. -/
def EveryCall {α : Type} (P : Call → Prop) (x : Sys α) : Prop :=
  ∀ t a, Meets x t (.pure a) → ∀ c ∈ t, P c.1

/-- Every value a run of `x` ends with, against any hosts, satisfies `P`. -/
def Yields {α : Type} (x : Sys α) (P : α → Prop) : Prop :=
  ∀ t a, Meets x t (.pure a) → P a

namespace EveryCall

variable {α β : Type} {P : Call → Prop}

theorem pure (a : α) : EveryCall P (Sys.pure a) := by
  intro t b h c hc
  rw [(Meets.pure_inv h).1] at hc
  cases hc

theorem perform {c : Call} (hc : P c) : EveryCall P (Sys.perform c) := by
  intro t b h d hd
  obtain ⟨h₀, rfl, -⟩ := Meets.perform_inv h
  rw [List.mem_singleton.mp hd]
  exact hc

theorem bind {x : Sys α} {f : α → Sys β} (hx : EveryCall P x) (hf : ∀ a, EveryCall P (f a)) :
    EveryCall P (x >>= f) := by
  intro t b h c hc
  obtain ⟨a, t₁, t₂, rfl, h₁, h₂⟩ := Meets.bind_pure_inv h
  rcases List.mem_append.mp hc with hc | hc
  · exact hx t₁ a h₁ c hc
  · exact hf a t₂ b h₂ c hc

theorem mono {Q : Call → Prop} {x : Sys α} (hx : EveryCall P x) (hPQ : ∀ c, P c → Q c) :
    EveryCall Q x :=
  fun t a h c hc => hPQ _ (hx t a h c hc)

end EveryCall

namespace Yields

variable {α β : Type} {P : β → Prop}

theorem pure {b : β} (hb : P b) : Yields (Sys.pure b) P := by
  intro t a h
  obtain ⟨-, he⟩ := Meets.pure_inv h
  cases he
  exact hb

theorem bind {x : Sys α} {f : α → Sys β} (hf : ∀ a, Yields (f a) P) : Yields (x >>= f) P := by
  intro t b h
  obtain ⟨a, t₁, t₂, -, -, h₂⟩ := Meets.bind_pure_inv h
  exact hf a t₂ b h₂

end Yields

end Sys

namespace StoreM

variable {α β : Type}

/-- Every call of every run of `x`, from any store and against any hosts, satisfies `P`. -/
def EveryCall (P : Call → Prop) (x : StoreM α) : Prop :=
  ∀ st t r st', Meets x st t r st' → ∀ c ∈ t, P c.1

/-- Every run of `x`, from any store and against any hosts, changes only what it owns, judged
against the calls `pre` made before it. -/
def Owning (pre : List (Call × Host)) (x : StoreM α) : Prop :=
  ∀ st t r st', Meets x st t r st' → OwnedCalls pre t

namespace EveryCall

variable {P : Call → Prop}

theorem nil {x : StoreM α} (hx : ∀ st t r st', Meets x st t r st' → t = []) : EveryCall P x := by
  intro st t r st' h c hc
  rw [hx st t r st' h] at hc
  cases hc

theorem pure (a : α) : EveryCall P (Pure.pure a : StoreM α) :=
  nil fun _ _ _ _ h => (Meets.pure_inv h).1

theorem throw (e : StoreError) : EveryCall P (MonadExcept.throw e : StoreM α) :=
  nil fun _ _ _ _ h => (Meets.throw_inv h).1

theorem lift {x : Sys α} (hx : Sys.EveryCall P x) : EveryCall P (x : StoreM α) := by
  intro st t r st' h c hc
  obtain ⟨-, a, -, hm⟩ := Meets.lift_inv h
  exact hx t a hm c hc

theorem bind {x : StoreM α} {f : α → StoreM β} (hx : EveryCall P x) (hf : ∀ a, EveryCall P (f a)) :
    EveryCall P (x >>= f) := by
  intro st t r st' h c hc
  rcases Meets.bind_inv h with ⟨e, -, he⟩ | ⟨a, s₁, t₁, t₂, rfl, h₁, h₂⟩
  · exact hx st t _ st' he c hc
  · rcases List.mem_append.mp hc with hc | hc
    · exact hx st t₁ _ s₁ h₁ c hc
    · exact hf a s₁ t₂ r st' h₂ c hc

theorem attempt {x : StoreM α} (hx : EveryCall P x) : EveryCall P (StoreM.attempt x) := by
  intro st t r st' h c hc
  obtain ⟨r', -, h'⟩ := Meets.attempt_inv h
  exact hx st t r' st' h' c hc

theorem call {op : String} {p : Path} {x : Sys (Except OsError α)} (hx : Sys.EveryCall P x) :
    EveryCall P (StoreM.call op p x) := by
  intro st t r st' h c hc
  obtain ⟨-, a, hm, -⟩ := Meets.call_inv h
  exact hx t a hm c hc

theorem ofExcept (r₀ : Except StoreError α) : EveryCall P (MonadExcept.ofExcept r₀ : StoreM α) :=
  nil fun _ _ _ _ h => (Meets.ofExcept_inv h).1

theorem get : EveryCall P (MonadState.get : StoreM Store) :=
  nil fun _ _ _ _ h => (Meets.get_inv h).1

theorem set (s : Store) : EveryCall P (MonadState.set s : StoreM PUnit) :=
  nil fun _ _ _ _ h => (Meets.set_inv h).1

theorem modify (f : Store → Store) : EveryCall P (modify f : StoreM PUnit) :=
  nil fun _ _ _ _ h => (Meets.modify_inv h).1

theorem config : EveryCall P StoreM.config :=
  nil fun _ _ _ _ h => (Meets.config_inv h).1

theorem buildPath (k : VarKey) : EveryCall P (StoreM.buildPath k) :=
  nil fun _ _ _ _ h => (Meets.buildPath_inv h).1

theorem report {d : Diagnostic} (hd : P (.note (.diagnostic d))) : EveryCall P (report d) :=
  lift (.perform hd)

/-- After a throw nothing else runs. -/
theorem throw_bind (e : StoreError) (f : α → StoreM β) :
    EveryCall P (MonadExcept.throw e >>= f) := by
  intro st t r st' h c hc
  rcases Meets.bind_inv h with ⟨e', -, he⟩ | ⟨a, s₁, t₁, t₂, -, h₁, -⟩
  · rw [(Meets.throw_inv he).1] at hc
    cases hc
  · cases (Meets.throw_inv h₁).2.1

end EveryCall

namespace Owning

variable {pre : List (Call × Host)}

/-- An operation each of whose calls is owned after `pre` alone. -/
theorem of_every {x : StoreM α} (hx : EveryCall (·.Owned pre) x) : Owning pre x :=
  fun st t r st' h => .of_forall fun c hc => hx st t r st' h c hc

/-- A sequence whose rest, run from what its first part returned, owns what it changes once the
calls of the first part are known. -/
theorem bind' {x : StoreM α} {f : α → StoreM β} (hx : Owning pre x)
    (hf : ∀ a st t₁ st', Meets x st t₁ (.ok a) st' → Owning (pre ++ t₁) (f a)) :
    Owning pre (x >>= f) := by
  intro st t r st' h
  rcases Meets.bind_inv h with ⟨e, -, he⟩ | ⟨a, s₁, t₁, t₂, rfl, h₁, h₂⟩
  · exact hx st t _ st' he
  · exact (hx st t₁ _ s₁ h₁).append (hf a st t₁ s₁ h₁ s₁ t₂ r st' h₂)

theorem mono {pre' : List (Call × Host)} (hsub : ∀ c ∈ pre, c ∈ pre') {x : StoreM α}
    (hx : Owning pre x) : Owning pre' x :=
  fun st t r st' h => (hx st t r st' h).mono hsub

theorem bind {x : StoreM α} {f : α → StoreM β} (hx : Owning pre x) (hf : ∀ a, Owning pre (f a)) :
    Owning pre (x >>= f) :=
  bind' hx fun a _ _ _ _ => (hf a).mono fun _ hc => List.mem_append_left _ hc

theorem attempt {x : StoreM α} (hx : Owning pre x) : Owning pre (StoreM.attempt x) := by
  intro st t r st' h
  obtain ⟨r', -, h'⟩ := Meets.attempt_inv h
  exact hx st t r' st' h'

end Owning

end StoreM

/-! ## §3. Inverting the runs of a write's parts -/

namespace StoreM

/-- Every run of `x` that starts from a store satisfying `I` ends in one satisfying it. -/
def Keeps {α : Type} (I : Store → Prop) (x : StoreM α) : Prop :=
  ∀ st t r st', I st → Meets x st t r st' → I st'

namespace Meets

variable {α : Type} {st st' : Store} {t : List (Call × Host)}

/-- One lifted call: it meets one host and succeeds with that host's answer. -/
theorem perform_inv {c : Call} {r : Except StoreError c.Reply}
    (h : Meets (Sys.perform c : StoreM c.Reply) st t r st') :
    st' = st ∧ ∃ hc, t = [(c, hc)] ∧ r = .ok (hc.exec c).1 := by
  obtain ⟨rfl, a, rfl, hm⟩ := lift_inv h
  obtain ⟨hc, rfl, rfl⟩ := Sys.Meets.perform_inv hm
  exact ⟨rfl, hc, rfl, rfl⟩

theorem freshStagingPath_inv {p : Path} {r : Except StoreError Path}
    (h : Meets (Store.freshStagingPath p) st t r st') :
    t = [] ∧ r = .ok (Store.stagingPath p st.process st.stagingCount) ∧
      st' = { st with stagingCount := st.stagingCount + 1 } := by
  obtain ⟨rfl, he⟩ := of_run_pure rfl h
  cases he
  exact ⟨rfl, rfl, rfl⟩

end Meets

namespace Keeps

variable {α β : Type} {I : Store → Prop}

theorem of_eq {x : StoreM α} (hx : ∀ st t r st', Meets x st t r st' → st' = st) : Keeps I x := by
  intro st t r st' hI h
  rw [hx st t r st' h]
  exact hI

theorem pure (a : α) : Keeps I (Pure.pure a : StoreM α) :=
  of_eq fun _ _ _ _ h => (Meets.pure_inv h).2.2

theorem throw (e : StoreError) : Keeps I (MonadExcept.throw e : StoreM α) :=
  of_eq fun _ _ _ _ h => (Meets.throw_inv h).2.2

theorem ofExcept (r₀ : Except StoreError α) : Keeps I (MonadExcept.ofExcept r₀ : StoreM α) :=
  of_eq fun _ _ _ _ h => (Meets.ofExcept_inv h).2.2

theorem get : Keeps I (MonadState.get : StoreM Store) :=
  of_eq fun _ _ _ _ h => (Meets.get_inv h).2.2

theorem config : Keeps I StoreM.config :=
  of_eq fun _ _ _ _ h => (Meets.config_inv h).2.2

theorem buildPath (k : VarKey) : Keeps I (StoreM.buildPath k) :=
  of_eq fun _ _ _ _ h => (Meets.buildPath_inv h).2.2

theorem lift (x : Sys α) : Keeps I (x : StoreM α) :=
  of_eq fun _ _ _ _ h => (Meets.lift_inv h).1

theorem call (op : String) (p : Path) (x : Sys (Except OsError α)) : Keeps I (StoreM.call op p x) :=
  of_eq fun _ _ _ _ h => (Meets.call_inv h).1

theorem modify {f : Store → Store} (hf : ∀ s, I s → I (f s)) : Keeps I (modify f : StoreM PUnit) := by
  intro st t r st' hI h
  rw [(Meets.modify_inv h).2.2]
  exact hf st hI

theorem bind {x : StoreM α} {f : α → StoreM β} (hx : Keeps I x) (hf : ∀ a, Keeps I (f a)) :
    Keeps I (x >>= f) := by
  intro st t r st' hI h
  rcases Meets.bind_inv h with ⟨e, -, he⟩ | ⟨a, s₁, t₁, t₂, -, h₁, h₂⟩
  · exact hx st t _ st' hI he
  · exact hf a s₁ t₂ r st' (hx st t₁ _ s₁ hI h₁) h₂

theorem attempt {x : StoreM α} (hx : Keeps I x) : Keeps I (StoreM.attempt x) := by
  intro st t r st' hI h
  obtain ⟨r', -, h'⟩ := Meets.attempt_inv h
  exact hx st t r' st' hI h'

theorem throw_bind (e : StoreError) (f : α → StoreM β) : Keeps I (MonadExcept.throw e >>= f) := by
  intro st t r st' hI h
  rcases Meets.bind_inv h with ⟨e', -, he⟩ | ⟨a, s₁, t₁, t₂, -, h₁, -⟩
  · rw [(Meets.throw_inv he).2.2]
    exact hI
  · cases (Meets.throw_inv h₁).2.1

end Keeps

end StoreM

namespace Call

/-- A call of an immutable window on descriptor `hd`: a query or a setting of its flag word, or a
report. -/
def Flags (hd : Handle) (c : Call) : Prop :=
  c = .getFlags hd ∨ (∃ w, c = .setFlags hd w) ∨ ∃ n, c = .note n

/-- A window's calls change only the flag word of its descriptor's inode. -/
theorem Flags.owned {hd : Handle} {c : Call} (hc : c.Flags hd) {pre : List (Call × Host)}
    (hop : OpenedIn pre hd.ino) : c.Owned pre := by
  rcases hc with rfl | ⟨w, rfl⟩ | ⟨n, rfl⟩
  · exact .of_keeps rfl rfl rfl
  · exact ⟨rfl, fun i hi => by cases hi; exact hop, fun q hq => by cases hq⟩
  · exact .of_keeps rfl rfl rfl

end Call

namespace Guard

open StoreM

theorem openWindow_flags (hd : Handle) (p : Path) (op : String) :
    Sys.EveryCall (Call.Flags hd) (openWindow hd p op) := by
  unfold openWindow
  refine .bind (.perform (.inl rfl)) fun r => ?_
  split
  · split
    · exact .pure _
    · exact .bind (.perform (.inr (.inr ⟨_, rfl⟩))) fun _ => .pure _
  · split
    · exact .pure _
    · refine .bind (.perform (.inr (.inl ⟨_, rfl⟩))) fun r => ?_
      split
      · exact .bind (.perform (.inr (.inr ⟨_, rfl⟩))) fun _ => .pure _
      · exact .pure _

/-- A window opened on `hd` is a window on `hd`. -/
theorem openWindow_handle (hd : Handle) (p : Path) (op : String) :
    Sys.Yields (openWindow hd p op) fun w => ∀ w' ∈ w, w'.handle = hd := by
  unfold openWindow
  refine .bind fun r => ?_
  split
  · split
    · exact .pure (by simp)
    · exact .bind fun _ => .pure (by simp)
  · split
    · exact .pure (by simp)
    · refine .bind fun r => ?_
      split
      · exact .bind fun _ => .pure (by simp)
      · exact .pure (by simp)

theorem closeWindow_flags {hd : Handle} {w : Option Window} (hw : ∀ w' ∈ w, w'.handle = hd) :
    Sys.EveryCall (Call.Flags hd) (closeWindow w) := by
  cases w with
  | none => exact .pure _
  | some w =>
    have hh : w.handle = hd := hw w rfl
    unfold closeWindow
    refine .bind (.perform (.inr (.inl ⟨_, by rw [hh]⟩))) fun r => ?_
    split
    · exact .pure _
    · exact .perform (.inr (.inr ⟨_, rfl⟩))

/-- A run of a windowed body, against any hosts: the window's calls on `hd`, the body's run from
the same store, and the window's closing calls on `hd`. -/
theorem meets_windowed {α : Type} {hd : Handle} {p : Path} {op : String} {body : StoreM α}
    {st st' : Store} {t : List (Call × Host)} {r : Except StoreError α}
    (h : Meets (windowed hd p op body) st t r st') :
    ∃ t₁ t₂ t₃, t = t₁ ++ t₂ ++ t₃ ∧ (∀ c ∈ t₁ ++ t₃, c.1.Flags hd) ∧ Meets body st t₂ r st' := by
  unfold windowed at h
  rcases Meets.bind_inv h with ⟨e, -, he⟩ | ⟨w, s₁, t₁, t', rfl, h₁, h'⟩
  · obtain ⟨-, a, ha, -⟩ := Meets.lift_inv he
    cases ha
  obtain ⟨rfl, w', hw', hm₁⟩ := Meets.lift_inv h₁
  cases hw'
  rcases Meets.bind_inv h' with ⟨e, -, he⟩ | ⟨rb, s₂, t₂, t'', rfl, h₂, h''⟩
  · obtain ⟨r', hr', -⟩ := Meets.attempt_inv he
    cases hr'
  obtain ⟨rb', hrb, hbody⟩ := Meets.attempt_inv h₂
  cases hrb
  rcases Meets.bind_inv h'' with ⟨e, -, he⟩ | ⟨u, s₃, t₃, t₄, rfl, h₃, h₄⟩
  · obtain ⟨-, a, ha, -⟩ := Meets.lift_inv he
    cases ha
  obtain ⟨rfl, u', -, hm₃⟩ := Meets.lift_inv h₃
  obtain ⟨rfl, rfl, rfl⟩ := Meets.ofExcept_inv h₄
  refine ⟨t₁, t₂, t₃, by simp, fun c hc => ?_, hbody⟩
  rcases List.mem_append.mp hc with hc | hc
  · exact openWindow_flags hd p op t₁ w hm₁ c hc
  · exact closeWindow_flags (openWindow_handle hd p op t₁ w hm₁) t₃ u' hm₃ c hc

theorem windowed_keeps {α : Type} {I : Store → Prop} {hd : Handle} {p : Path} {op : String}
    {body : StoreM α} (hb : Keeps I body) : Keeps I (windowed hd p op body) := by
  intro st t r st' hI h
  obtain ⟨-, t₂, -, -, -, hbody⟩ := meets_windowed h
  exact hb st t₂ r st' hI hbody

/-- A window on an inode opened before it, around a body that owns what it changes, owns what it
changes. -/
theorem windowed_owning {α : Type} {pre : List (Call × Host)} {hd : Handle} {p : Path}
    {op : String} {body : StoreM α} (hop : OpenedIn pre hd.ino) (hb : Owning pre body) :
    Owning pre (windowed hd p op body) := by
  intro st t r st' h
  obtain ⟨t₁, t₂, t₃, rfl, hflags, hbody⟩ := meets_windowed h
  have h₁ : OwnedCalls pre t₁ :=
    .of_forall fun c hc => (hflags c (List.mem_append_left _ hc)).owned hop
  have h₂ : OwnedCalls (pre ++ t₁) t₂ :=
    (hb st t₂ r st' hbody).mono fun c hc => List.mem_append_left _ hc
  have h₃ : OwnedCalls (pre ++ (t₁ ++ t₂)) t₃ :=
    .of_forall fun c hc => (hflags c (List.mem_append_right _ hc)).owned
      (hop.mono fun c hc => List.mem_append_left _ hc)
  exact (h₁.append h₂).append h₃

end Guard

/-! ## §4. A write changes only what it owns -/

namespace Store

open StoreM

section Parts

variable {pre : List (Call × Host)}

/-- The one call of an exclusive create or an observe that handed back `hd` opened it. -/
theorem openedIn_single {c : Call} {hc : Host} {hd : Handle} (hop : hc.opened? c = some hd) :
    OpenedIn (pre ++ [(c, hc)]) hd.ino :=
  ⟨(c, hc), List.mem_append_right _ (List.mem_singleton_self _), by rw [hop]; rfl⟩

theorem createdIn_single {q : Path} {m : Nat} {hc : Host} {hd : Handle}
    (hop : hc.opened? (.reopen q (.createNew m)) = some hd) :
    CreatedIn (pre ++ [(.reopen q (.createNew m), hc)]) q :=
  ⟨_, List.mem_append_right _ (List.mem_singleton_self _), m, rfl, by rw [hop]; rfl⟩

theorem isVarfsRoot_every {P : Call → Prop} (hP : ∀ q, P (.statfs q)) : EveryCall P isVarfsRoot := by
  unfold isVarfsRoot
  refine .bind .get fun s => ?_
  split
  · exact .pure _
  · refine .bind (.lift (.perform (hP _))) fun r => ?_
    exact .bind (.modify _) fun _ => .pure _

theorem writeOnce_every {P : Call → Prop} {hd : Handle} {p : Path} {bytes : Bytes}
    (hP : P (.write hd 0 bytes)) : EveryCall P (writeOnce hd p bytes) := by
  unfold writeOnce
  refine .bind (.call (.perform hP)) fun n => ?_
  split
  · exact .throw _
  · exact .pure _

theorem rollback_every {P : Call → Prop} {p : Path} (hu : P (.unlink p)) (hn : ∀ n, P (.note n)) :
    EveryCall P (rollback p) := by
  unfold rollback
  refine .bind (.lift (.perform hu)) fun r => ?_
  split
  · exact .pure _
  · exact .report (hn _)

theorem rollback_owned {p : Path} (hcr : CreatedIn pre p) : EveryCall (·.Owned pre) (rollback p) :=
  rollback_every (.of_name hcr rfl rfl rfl) fun _ => .of_keeps rfl rfl rfl

/-- A replace writes and cuts only through a descriptor of the inode it observed. -/
theorem replace_owning {p : Path} {observed : Handle} (hop : OpenedIn pre observed.ino)
    (a : Attributes) (bytes : Bytes) : Owning pre (replace p observed a bytes) := by
  unfold replace
  refine Guard.windowed_owning hop (.of_every ?_)
  refine .bind (.lift (.perform (.of_keeps rfl rfl rfl))) fun r => ?_
  cases r with
  | error e =>
    dsimp only
    split <;> exact .throw_bind _ _
  | ok h =>
    dsimp only
    refine .bind (.pure h) fun h => ?_
    split
    · exact .throw_bind _ _
    · rename_i hino
      -- the descriptor passed the identity check: it names the observed inode
      have hi : h.ino = observed.ino := Classical.not_not.mp hino
      have hop' : OpenedIn pre h.ino := hi ▸ hop
      refine .bind (writeOnce_every (.of_ino hop' rfl rfl rfl)) fun _ => ?_
      split
      · refine .bind (isVarfsRoot_every fun q => .of_keeps rfl rfl rfl) fun b => ?_
        split
        · exact .call (.perform (.of_ino hop' rfl rfl rfl))
        · exact .pure _
      · exact .pure _

/-- An in-place create writes only the file it created, and removes only the name it created. -/
theorem createInPlace_owning (p : Path) (bytes : Bytes) (mode : Nat) :
    Owning pre (createInPlace p bytes mode) := by
  unfold createInPlace
  refine .bind' (.of_every (.lift (.perform (.of_keeps rfl rfl rfl)))) fun r st t₁ st' h => ?_
  obtain ⟨-, hc, rfl, hr⟩ := Meets.perform_inv (c := .reopen p (.createNew mode)) h
  cases hr
  have hop : hc.opened? (.reopen p (.createNew mode)) =
      (hc.exec (.reopen p (.createNew mode))).1.toOption := rfl
  generalize (hc.exec (.reopen p (.createNew mode))).1 = rr at hop ⊢
  cases rr with
  | error e =>
    dsimp only
    split <;> exact .of_every (.throw_bind _ _)
  | ok hd =>
    dsimp only
    rw [pure_bind]
    refine .bind (.attempt (Guard.windowed_owning (openedIn_single hop)
      (.of_every (writeOnce_every (.of_ino (openedIn_single hop) rfl rfl rfl))))) fun r => ?_
    split
    · exact .bind (.of_every (rollback_owned (createdIn_single hop))) fun _ => .of_every (.ofExcept _)
    · exact .of_every (.ofExcept _)

/-- A staged create writes only the staging file it created, and links and removes only the
staging name it created. -/
theorem createStaged_owning (p : Path) (bytes : Bytes) (mode : Nat) :
    Owning pre (createStaged p bytes mode) := by
  unfold createStaged
  refine .bind (.of_every (.bind .get fun s => .bind (.set _) fun _ => .pure _)) fun staged => ?_
  refine .bind' (.of_every (.call (.perform (.of_keeps rfl rfl rfl)))) fun hd st t₁ st' h => ?_
  obtain ⟨-, a, hm, ha⟩ := Meets.call_inv h
  obtain ⟨hc, rfl, rfl⟩ := Sys.Meets.perform_inv (c := .reopen staged (.createNew mode)) hm
  have hop : hc.opened? (.reopen staged (.createNew mode)) = some hd := by
    show Except.toOption (hc.exec (.reopen staged (.createNew mode))).1 = _
    revert ha
    cases (hc.exec (.reopen staged (.createNew mode))).1 with
    | ok v => intro ha; cases ha; rfl
    | error e => intro ha; cases ha
  refine .bind (.attempt (.bind (Guard.windowed_owning (openedIn_single hop)
    (.of_every (writeOnce_every (.of_ino (openedIn_single hop) rfl rfl rfl))))
    fun _ => .of_every ?_)) fun r => ?_
  · -- the link of the staging name it created
    refine .bind (.lift (.perform (.of_name (createdIn_single hop) rfl rfl rfl))) fun r => ?_
    split
    · exact .pure _
    · split <;> exact .throw _
  · exact .bind (.of_every (rollback_owned (createdIn_single hop))) fun _ => .of_every (.ofExcept _)

end Parts

/-- A write without its persistence copy changes only what it owns: the inode it observed at its
start, or the file it created. -/
theorem put_owning (pre : List (Call × Host)) (k : VarKey) (a : Attributes) (data : Bytes)
    (mode : Nat) : Owning pre (put k a data mode) := by
  unfold put
  refine .bind (.of_every (.ofExcept _)) fun _ => ?_
  refine .bind (.of_every (.buildPath k)) fun p => ?_
  refine .bind' (.of_every (.lift (.perform (.of_keeps rfl rfl rfl)))) fun r st t₁ st' h => ?_
  obtain ⟨-, hc, rfl, hr⟩ := Meets.perform_inv (c := .observe p) h
  cases hr
  have hop : hc.opened? (.observe p) = (hc.exec (.observe p)).1.toOption := rfl
  have hroot : ∀ q : List (Call × Host), Owning q isVarfsRoot :=
    fun q => .of_every (isVarfsRoot_every fun _ => .of_keeps rfl rfl rfl)
  generalize (hc.exec (.observe p)).1 = rr at hop ⊢
  cases rr with
  | ok hd =>
    -- the file exists: whichever bytes are chosen, the observed inode is replaced
    dsimp only
    rw [pure_bind]
    have hrep : ∀ bytes, Owning (pre ++ [(.observe p, hc)]) (replace p hd a bytes) :=
      fun bytes => replace_owning (openedIn_single hop) a bytes
    split
    · refine .bind (hroot _) fun b => ?_
      split <;> (rw [pure_bind]; exact hrep _)
    · rw [pure_bind]
      exact hrep _
  | error e =>
    dsimp only
    split
    · -- no file: it is created, in place or staged
      rw [pure_bind]
      have hcre : ∀ bytes, Owning (pre ++ [(.observe p, hc)]) (do
          if ← isVarfsRoot then createInPlace p bytes mode else createStaged p bytes mode) :=
        fun bytes => .bind (hroot _) fun b => by
          split
          · exact createInPlace_owning p bytes mode
          · exact createStaged_owning p bytes mode
      split
      · refine .bind (hroot _) fun b => ?_
        split <;> (rw [pure_bind]; exact hcre _)
      · rw [pure_bind]
        exact hcre _
    · exact .of_every (.throw_bind _ _)

/-! ## §5. A write keeps the configuration -/

section Config

variable {c : Config}

theorem isVarfsRoot_keeps : Keeps (·.config = c) isVarfsRoot := by
  unfold isVarfsRoot
  refine .bind .get fun s => ?_
  split
  · exact .pure _
  · exact .bind (.lift _) fun r => .bind (.modify fun s hs => hs) fun _ => .pure _

theorem writeOnce_keeps (hd : Handle) (p : Path) (bytes : Bytes) :
    Keeps (·.config = c) (writeOnce hd p bytes) := by
  unfold writeOnce
  refine .bind (.call _ _ _) fun n => ?_
  split
  · exact .throw _
  · exact .pure _

theorem rollback_keeps (p : Path) : Keeps (·.config = c) (rollback p) := by
  unfold rollback
  refine .bind (.lift _) fun r => ?_
  split
  · exact .pure _
  · exact .lift _

theorem replace_keeps (p : Path) (observed : Handle) (a : Attributes) (bytes : Bytes) :
    Keeps (·.config = c) (replace p observed a bytes) := by
  unfold replace
  refine Guard.windowed_keeps (.bind (.lift _) fun r => ?_)
  cases r with
  | error e =>
    dsimp only
    split <;> exact .throw_bind _ _
  | ok h =>
    dsimp only
    refine .bind (.pure h) fun h => ?_
    split
    · exact .throw_bind _ _
    · refine .bind (writeOnce_keeps _ _ _) fun _ => ?_
      split
      · refine .bind isVarfsRoot_keeps fun b => ?_
        split
        · exact .call _ _ _
        · exact .pure _
      · exact .pure _

theorem createInPlace_keeps (p : Path) (bytes : Bytes) (mode : Nat) :
    Keeps (·.config = c) (createInPlace p bytes mode) := by
  unfold createInPlace
  refine .bind (.lift _) fun r => ?_
  cases r with
  | error e =>
    dsimp only
    split <;> exact .throw_bind _ _
  | ok hd =>
    dsimp only
    refine .bind (.pure hd) fun h => ?_
    refine .bind (.attempt (Guard.windowed_keeps (writeOnce_keeps _ _ _))) fun r => ?_
    split
    · exact .bind (rollback_keeps p) fun _ => .ofExcept _
    · exact .ofExcept _

theorem createStaged_keeps (p : Path) (bytes : Bytes) (mode : Nat) :
    Keeps (·.config = c) (createStaged p bytes mode) := by
  unfold createStaged
  have hfresh : Keeps (·.config = c) (freshStagingPath p) := by
    intro st t r st' hI h
    rw [(Meets.freshStagingPath_inv h).2.2]
    exact hI
  refine .bind hfresh fun staged => .bind (.call _ _ _) fun hd => ?_
  refine .bind (.attempt (.bind (Guard.windowed_keeps (writeOnce_keeps _ _ _)) fun _ => ?_))
    fun r => .bind (rollback_keeps _) fun _ => .ofExcept _
  refine .bind (.lift _) fun r => ?_
  split
  · exact .pure _
  · split <;> exact .throw _

/-- A write changes the store's count of staging names and what it knows of its root, never its
configuration. -/
theorem put_keeps (k : VarKey) (a : Attributes) (data : Bytes) (mode : Nat) :
    Keeps (·.config = c) (put k a data mode) := by
  unfold put
  refine .bind (.ofExcept _) fun _ => .bind (.buildPath k) fun p => .bind (.lift _) fun r => ?_
  cases r with
  | ok hd =>
    dsimp only
    rw [pure_bind]
    split
    · refine .bind isVarfsRoot_keeps fun b => ?_
      split <;> (rw [pure_bind]; exact replace_keeps _ _ _ _)
    · rw [pure_bind]
      exact replace_keeps _ _ _ _
  | error e =>
    dsimp only
    split
    · rw [pure_bind]
      have hcre : ∀ bytes, Keeps (·.config = c) (do
          if ← isVarfsRoot then createInPlace p bytes mode else createStaged p bytes mode) :=
        fun bytes => .bind isVarfsRoot_keeps fun b => by
          split
          · exact createInPlace_keeps p bytes mode
          · exact createStaged_keeps p bytes mode
      split
      · refine .bind isVarfsRoot_keeps fun b => ?_
        split <;> (rw [pure_bind]; exact hcre _)
      · rw [pure_bind]
        exact hcre _
    · exact .throw_bind _ _

end Config

/-- With the persistence copy off, the copy makes no call and changes nothing. -/
theorem Meets.persist_none {op : String} {st st' : Store} {t : List (Call × Host)}
    {r : Except StoreError Unit} (hn : st.config.persist = none) (h : Meets (persist op) st t r st') :
    t = [] ∧ r = .ok () ∧ st' = st := by
  unfold persist at h
  rcases Meets.bind_inv h with ⟨e, -, he⟩ | ⟨cfg, s₁, t₁, t₂, rfl, h₁, h₂⟩
  · cases (Meets.config_inv he).2.1
  obtain ⟨rfl, hc, rfl⟩ := Meets.config_inv h₁
  cases hc
  rw [hn] at h₂
  obtain ⟨rfl, rfl, rfl⟩ := Meets.pure_inv h₂
  exact ⟨rfl, rfl, rfl⟩

/-- With the persistence copy off, a set makes the calls of its write and no other. -/
theorem Meets.set_of_persist_none {k : VarKey} {a : Attributes} {data : Bytes} {mode : Nat}
    {st st' : Store} {t : List (Call × Host)} {r : Except StoreError Unit}
    (hn : st.config.persist = none) (h : Meets (set k a data mode) st t r st') :
    Meets (put k a data mode) st t r st' := by
  unfold set at h
  rcases Meets.bind_inv h with ⟨e, rfl, he⟩ | ⟨u, s₁, t₁, t₂, rfl, h₁, h₂⟩
  · exact he
  · have hc : s₁.config = st.config := put_keeps k a data mode st t₁ _ s₁ rfl h₁
    obtain ⟨rfl, rfl, rfl⟩ := Meets.persist_none (hc ▸ hn) h₂
    rw [List.append_nil]
    exact h₁

/-- An append is a set with the append bit, creating with the configured mode. -/
theorem Meets.append_inv {k : VarKey} {a : Attributes} {data : Bytes} {st st' : Store}
    {t : List (Call × Host)} {r : Except StoreError Unit} (h : Meets (append k a data) st t r st') :
    Meets (set k a.withAppend data st.config.appendMode) st t r st' := by
  unfold append at h
  rcases Meets.bind_inv h with ⟨e, -, he⟩ | ⟨cfg, s₁, t₁, t₂, rfl, h₁, h₂⟩
  · cases (Meets.config_inv he).2.1
  obtain ⟨rfl, hc, rfl⟩ := Meets.config_inv h₁
  cases hc
  exact h₂

end Store

/-! ## §6. A replace refuses a file it did not observe -/

namespace Call

/-- Whether a call is the write protocol's open of an existing file for writing. -/
def isWriteOpen : Call → Bool
  | .reopen _ (.write _) => true
  | _ => false

theorem Flags.isWriteOpen {hd : Handle} {c : Call} (hc : c.Flags hd) : c.isWriteOpen = false := by
  rcases hc with rfl | ⟨w, rfl⟩ | ⟨n, rfl⟩ <;> rfl

theorem Flags.written {hd : Handle} {c : Call} (hc : c.Flags hd) : c.written? = none := by
  rcases hc with rfl | ⟨w, rfl⟩ | ⟨n, rfl⟩ <;> rfl

end Call

/-- What the write-open of a quiet host answers: the inode at the path, opened for writing. -/
theorem Host.reply_writeOpen {h : Host} (hq : h.Quiet) (p : Path) (app : Bool) :
    (h.exec (.reopen p (.write app))).1 =
      (h.fs.openWrite p).map fun i => ⟨i, if app then .append else .write⟩ := by
  rw [Host.exec_reopen hq]
  unfold Host.openAt Fs.openAt
  cases h.fs.openWrite p <;> rfl

namespace Store

open StoreM

/-- The error of a replace whose write-open of `p` answered `w`, which is not the observed inode:
a race when the path names nothing or another file, the open's own error otherwise. -/
def refusal (p : Path) : Except OsError Nat → StoreError
  | .ok _ => .race p .replaced
  | .error e => if e.isNotFound then .race p .removed else .ofOs "open for writing" p e

/-- A run of a write whose first call observed the inode `hd` at `p`: when its write-open of `p`
finds anything but that inode, the write fails with the refusal and writes nothing. -/
def RefusesReplaced (t : List (Call × Host)) (r : Except StoreError Unit) : Prop :=
  ∀ p h₀ rest hd, t = (.observe p, h₀) :: rest → h₀.opened? (.observe p) = some hd →
    ∀ h₁ app, (.reopen p (.write app), h₁) ∈ rest → h₁.Quiet →
      (h₁.fs.openWrite p).toOption ≠ some hd.ino →
        r = .error (refusal p (h₁.fs.openWrite p)) ∧ ∀ c ∈ t, c.1.written? = none

theorem isVarfsRoot_statfs {st st' : Store} {t : List (Call × Host)} {r : Except StoreError Bool}
    (h : Meets isVarfsRoot st t r st') : ∀ c ∈ t, ∃ q, c.1 = .statfs q :=
  isVarfsRoot_every (P := fun c => ∃ q, c = .statfs q) (fun q => ⟨q, rfl⟩) st t r st' h

/-- A replace whose write-open meets a host where the path no longer names the observed inode
fails with the refusal, and writes nothing. -/
theorem Meets.replace_refused {p : Path} {observed : Handle} {a : Attributes} {bytes : Bytes}
    {st st' : Store} {t : List (Call × Host)} {r : Except StoreError Unit}
    (h : Meets (replace p observed a bytes) st t r st') {h₁ : Host} {app : Bool}
    (hre : (.reopen p (.write app), h₁) ∈ t) (hq : h₁.Quiet)
    (hne : (h₁.fs.openWrite p).toOption ≠ some observed.ino) :
    r = .error (refusal p (h₁.fs.openWrite p)) ∧ ∀ c ∈ t, c.1.written? = none := by
  unfold replace at h
  obtain ⟨t₁, t₂, t₃, rfl, hfl, hbody⟩ := Guard.meets_windowed h
  rcases Meets.bind_inv hbody with ⟨e, -, he⟩ | ⟨rr, s₁, u₁, u₂, rfl, h₁', h₂⟩
  · obtain ⟨-, a', ha, -⟩ := Meets.lift_inv he
    cases ha
  obtain ⟨rfl, hb, rfl, hrr⟩ := Meets.perform_inv (c := .reopen p (.write a.isAppend)) h₁'
  cases hrr
  -- the write-open met at `h₁` is the body's first call, unless the body went on to write
  have hwhere : ∀ u, (∀ c ∈ u, c.1.isWriteOpen = false) →
      (.reopen p (.write app), h₁) ∈ t₁ ++ ([(.reopen p (.write a.isAppend), hb)] ++ u) ++ t₃ →
      h₁ = hb ∧ app = a.isAppend := by
    intro u hu hmem
    simp only [List.mem_append, List.mem_singleton] at hmem
    rcases hmem with (hm | hm | hm) | hm
    · cases (hfl _ (List.mem_append_left _ hm)).isWriteOpen
    · simp only [Prod.mk.injEq, Call.reopen.injEq, OpenMode.write.injEq] at hm
      exact ⟨hm.2, hm.1.2⟩
    · cases hu _ hm
    · cases (hfl _ (List.mem_append_right _ hm)).isWriteOpen
  have hwritten : ∀ u, (∀ c ∈ u, c.1.written? = none) →
      ∀ c ∈ t₁ ++ ([(.reopen p (.write a.isAppend), hb)] ++ u) ++ t₃, c.1.written? = none := by
    intro u hu c hc
    simp only [List.mem_append, List.mem_singleton] at hc
    rcases hc with (hc | rfl | hc) | hc
    · exact (hfl c (List.mem_append_left _ hc)).written
    · rfl
    · exact hu c hc
    · exact (hfl c (List.mem_append_right _ hc)).written
  cases hrep : (hb.exec (.reopen p (.write a.isAppend))).1 with
  | error e =>
    -- the open failed: its error is thrown, and the body ends there
    rw [hrep] at h₂
    dsimp only at h₂
    have hu₂ : u₂ = [] ∧ r = .error (refusal p (.error e)) := by
      unfold refusal
      split at h₂ <;> rename_i hnf <;>
        · rcases Meets.bind_inv h₂ with ⟨e', rfl, he'⟩ | ⟨x, s₂, v₁, v₂, -, hv, -⟩
          · obtain ⟨rfl, he'', -⟩ := Meets.throw_inv he'
            cases he''
            simp [hnf]
          · cases (Meets.throw_inv hv).2.1
    obtain ⟨rfl, rfl⟩ := hu₂
    obtain ⟨rfl, rfl⟩ := hwhere [] (fun _ h => by cases h) hre
    have hw : h₁.fs.openWrite p = .error e := by
      rw [Host.reply_writeOpen hq] at hrep
      revert hrep
      cases h₁.fs.openWrite p <;> intro hrep <;> cases hrep
      rfl
    rw [hw]
    exact ⟨rfl, hwritten [] (fun _ h => by cases h)⟩
  | ok hd =>
    rw [hrep] at h₂
    dsimp only at h₂
    rw [pure_bind] at h₂
    by_cases hino : hd.ino ≠ observed.ino
    · -- another inode: the race is thrown, and the body ends there
      rw [if_pos hino] at h₂
      have hu₂ : u₂ = [] ∧ r = .error (.race p .replaced) := by
        rcases Meets.bind_inv h₂ with ⟨e', rfl, he'⟩ | ⟨x, s₂, v₁, v₂, -, hv, -⟩
        · obtain ⟨rfl, he'', -⟩ := Meets.throw_inv he'
          cases he''
          exact ⟨rfl, rfl⟩
        · cases (Meets.throw_inv hv).2.1
      obtain ⟨rfl, rfl⟩ := hu₂
      obtain ⟨rfl, rfl⟩ := hwhere [] (fun _ h => by cases h) hre
      have hw : h₁.fs.openWrite p = .ok hd.ino := by
        rw [Host.reply_writeOpen hq] at hrep
        revert hrep
        cases h₁.fs.openWrite p <;> intro hrep <;> cases hrep
        rfl
      rw [hw]
      exact ⟨rfl, hwritten [] (fun _ h => by cases h)⟩
    · -- the observed inode: the body goes on with calls that are no write-open, so the
      -- write-open met at `h₁` is this one, which found the observed inode
      exfalso
      rw [if_neg hino] at h₂
      have hrest : ∀ c ∈ u₂, c.1.isWriteOpen = false := by
        refine (show EveryCall (·.isWriteOpen = false) (do
            writeOnce hd p bytes
            if !a.isAppend then
              if !(← isVarfsRoot) then call "truncate" p (Sys.truncate hd bytes.length))
          from .bind (writeOnce_every rfl) fun _ => ?_) s₁ u₂ r st' h₂
        split
        · refine .bind (isVarfsRoot_every fun _ => rfl) fun b => ?_
          split
          · exact .call (.perform rfl)
          · exact .pure _
        · exact .pure _
      obtain ⟨rfl, rfl⟩ := hwhere u₂ hrest hre
      apply hne
      rw [Host.reply_writeOpen hq] at hrep
      revert hrep
      cases h₁.fs.openWrite p <;> intro hrep <;> cases hrep
      exact congrArg some (Classical.not_not.mp hino)

/-- A write that observed a file at `p`: after calls that ask what the root is, it replaces the
observed file, or it stopped because asking failed. -/
theorem Meets.put_observed {k : VarKey} {a : Attributes} {data : Bytes} {mode : Nat}
    {st st' : Store} {p : Path} {h₀ : Host} {rest : List (Call × Host)} {r : Except StoreError Unit}
    (h : Meets (put k a data mode) st ((.observe p, h₀) :: rest) r st') {hd : Handle}
    (hobs : (h₀.exec (.observe p)).1 = .ok hd) :
    ∃ u t', rest = u ++ t' ∧ (∀ c ∈ u, ∃ q, c.1 = .statfs q) ∧
      (t' = [] ∨ ∃ s bytes, Meets (replace p hd a bytes) s t' r st') := by
  unfold put at h
  rcases Meets.bind_inv h with ⟨e, -, he⟩ | ⟨u₀, s₀, t₀, t₁, ht₀, h₀', h₁'⟩
  · cases (Meets.ofExcept_inv he).1
  obtain ⟨rfl, -, rfl⟩ := Meets.ofExcept_inv h₀'
  rcases Meets.bind_inv h₁' with ⟨e, -, he⟩ | ⟨p', s₁, t₂, t₃, rfl, h₂, h₃⟩
  · cases (Meets.buildPath_inv he).1 ▸ ht₀
  obtain ⟨rfl, -, rfl⟩ := Meets.buildPath_inv h₂
  rcases Meets.bind_inv h₃ with ⟨e, -, he⟩ | ⟨rr, s₂, t₄, t₅, rfl, h₄, h₅⟩
  · obtain ⟨-, a', ha, -⟩ := Meets.lift_inv he
    cases ha
  obtain ⟨rfl, hc, rfl, hrr⟩ := Meets.perform_inv (c := .observe p') h₄
  cases hrr
  simp only [List.nil_append, List.singleton_append, List.cons.injEq, Prod.mk.injEq,
    Call.observe.injEq] at ht₀
  obtain ⟨⟨rfl, rfl⟩, rfl⟩ := ht₀
  rw [hobs] at h₅
  dsimp only at h₅
  rw [pure_bind] at h₅
  split at h₅
  · -- an append: the root is asked which bytes to write
    rcases Meets.bind_inv h₅ with ⟨e, -, he⟩ | ⟨b, s₃, u, t', rfl, h₆, h₇⟩
    · exact ⟨_, [], (List.append_nil _).symm, isVarfsRoot_statfs he, .inl rfl⟩
    · refine ⟨u, t', rfl, isVarfsRoot_statfs h₆, .inr ?_⟩
      split at h₇ <;> (rw [pure_bind] at h₇; exact ⟨_, _, h₇⟩)
  · rw [pure_bind] at h₅
    exact ⟨[], _, rfl, (fun _ h => by cases h), .inr ⟨_, _, h₅⟩⟩

/-- A write refuses a file it did not observe: when its write-open finds the path naming another
inode or nothing, it fails with the refusal and writes nothing. -/
theorem put_refusesReplaced {k : VarKey} {a : Attributes} {data : Bytes} {mode : Nat}
    {st st' : Store} {t : List (Call × Host)} {r : Except StoreError Unit}
    (h : Meets (put k a data mode) st t r st') : RefusesReplaced t r := by
  intro p h₀ rest hd ht hobs h₁ app hre hq hne
  subst ht
  have hobs' : (h₀.exec (.observe p)).1 = .ok hd := by
    have hopt : Except.toOption (h₀.exec (.observe p)).1 = some hd := hobs
    rcases hx : (h₀.exec (.observe p)).1 with e | v
    · rw [hx] at hopt
      cases hopt
    · rw [hx] at hopt
      cases hopt
      rfl
  obtain ⟨u, t', rfl, hu, ht'⟩ := Meets.put_observed h hobs'
  rcases List.mem_append.mp hre with hm | hm
  · obtain ⟨q, hq'⟩ := hu _ hm
    cases hq'
  rcases ht' with rfl | ⟨s, bytes, hrep⟩
  · cases hm
  obtain ⟨hr, hw⟩ := Meets.replace_refused hrep hm hq hne
  refine ⟨hr, fun c hc => ?_⟩
  rcases List.mem_cons.mp hc with rfl | hc
  · rfl
  rcases List.mem_append.mp hc with hc | hc
  · obtain ⟨q, hq'⟩ := hu c hc
    rw [hq']
    rfl
  · exact hw c hc

/-! ## §7. Set and append against other actors -/

/-- Every run of `x` from store `st`, against hosts that other actors may change arbitrarily
between any two of its calls, changes only what it owns, and refuses a file it did not observe. -/
def ChangesOnlyOwn (x : StoreM Unit) (st : Store) : Prop :=
  ∀ t r st', Meets x st t r st' → OwnedCalls [] t ∧ RefusesReplaced t r

/-- With the persistence copy off, a set or an append changes only what it owns, however other
actors interleave with it on either kind of root: it writes, cuts and flags only the inode it
observed at its start or a file it created itself with an exclusive create, it links and removes
only names it created itself that way, and no open of it truncates. When its write-open finds
the path naming another inode or nothing, it fails with a race (or the open's error) and writes
nothing. -/
theorem set_changes_only_own (k : VarKey) (a : Attributes) (data : Bytes) (mode : Nat) (st : Store)
    (hmirror : st.config.persist = none) :
    ChangesOnlyOwn (set k a data mode) st ∧ ChangesOnlyOwn (append k a data) st := by
  have hset : ∀ a mode, ChangesOnlyOwn (set k a data mode) st := by
    intro a mode t r st' h
    have hput := Meets.set_of_persist_none hmirror h
    exact ⟨by simpa using put_owning [] k a data mode st t r st' hput, put_refusesReplaced hput⟩
  exact ⟨hset a mode, fun t r st' h => hset _ _ t r st' (Meets.append_inv h)⟩

/-- A set of `K` on a `vars` tree where `K` has no file yet, run alone. -/
theorem set_changes_only_own_zeroTree :
    OwnedCalls [] (trace (set ⟨Guid.zero, "K"⟩ ⟨7⟩ [1] 0o644) { config := varsConfig }
        { fs := varsTree }) ∧
      RefusesReplaced (trace (set ⟨Guid.zero, "K"⟩ ⟨7⟩ [1] 0o644) { config := varsConfig }
        { fs := varsTree })
        (exec (set ⟨Guid.zero, "K"⟩ ⟨7⟩ [1] 0o644) { config := varsConfig } { fs := varsTree }).1.1 :=
  (set_changes_only_own ⟨Guid.zero, "K"⟩ ⟨7⟩ [1] 0o644 { config := varsConfig } rfl).1 _ _ _
    (Meets.of_trace _ _ _)

/-- A store rooted at `vars` whose persistence copy goes to mount point `esp`. -/
def mirrorConfig : Config :=
  { varsConfig with persist := some { PersistSpec.default with mountPoints := [.ofString "esp"] } }

/-- `vars` holds `K` of the zero GUID, the control variable naming the target `target` and the
payload variable with payload `aa bb`; `esp/target` is a file of one byte `ff` that some other
actor wrote. -/
def mirrorTree : Fs :=
  ⟨#[⟨.dir [] 1, 0o755, none⟩,
    ⟨.dir [(Utf8.encode "vars", 2), (Utf8.encode "esp", 3)] 1, 0o755, none⟩,
    ⟨.dir [(Utf8.encode (VarKey.fileName ⟨Guid.zero, "K"⟩), 7), (Utf8.encode PersistSpec.default.fileNameKey.fileName, 4),
      (Utf8.encode PersistSpec.default.payloadKey.fileName, 5)] 1, 0o755, none⟩,
    ⟨.dir [(Utf8.encode "target", 6)] 1, 0o755, none⟩,
    ⟨.file ([7, 0, 0, 0] ++ Utf8.encode "target" ++ [0]), 0o644, none⟩,
    ⟨.file [7, 0, 0, 0, 0xaa, 0xbb], 0o644, none⟩,
    ⟨.file [0xff], 0o644, none⟩,
    ⟨.file [7, 0, 0, 0, 0], 0o644, none⟩]⟩

/-- With the persistence copy on, a set of an unrelated variable cuts and rewrites `esp/target`,
an inode it neither observed nor created: the copy opens its target with truncation. -/
theorem mirror_copy_rewrites_other_file :
    ¬ OwnedCalls [] (trace (set ⟨Guid.zero, "K"⟩ ⟨7⟩ [1] 0o644) { config := mirrorConfig }
        { fs := mirrorTree }) ∧
      mirrorTree.contents (.ofString "esp/target") = some [0xff] ∧
      (exec (set ⟨Guid.zero, "K"⟩ ⟨7⟩ [1] 0o644) { config := mirrorConfig }
        { fs := mirrorTree }).2.fs.contents (.ofString "esp/target") = some [0xaa, 0xbb] := by
  refine ⟨fun hown => ?_, by decide, by decide +kernel⟩
  have hany : (trace (set ⟨Guid.zero, "K"⟩ ⟨7⟩ [1] 0o644) { config := mirrorConfig }
      { fs := mirrorTree }).any (·.1.truncatesOnOpen) = true := by decide +kernel
  obtain ⟨c, hc, htr⟩ := List.any_eq_true.mp hany
  obtain ⟨t₁, t₂, ht⟩ := List.append_of_mem hc
  have := (hown t₁ c t₂ ht).keepsOnOpen
  rw [this] at htr
  cases htr

end Store

end FirmwareVars
