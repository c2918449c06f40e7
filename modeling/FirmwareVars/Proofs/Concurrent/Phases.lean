import FirmwareVars.Proofs.Concurrent.Ownership
import FirmwareVars.Proofs.Store.Records

/-!
# The hosts a set passes through

A reader running beside a set meets the hosts the set passes through, one after another. This
module follows a set run alone on a quiet host and says, host by host, what a reader of the
variable's file finds there: the states of the file, in order (`set_staged_present`,
`set_staged_absent`).

* Rewriting a file in place passes through the new record laid over the old file: the file is cut
  to the record's length only after the write, so a shorter record first shows the old file's
  tail behind it.
* Adding to a file switches at the write, which puts the payload after the old bytes at once.
* A new file is written in full under its staging name first, and appears at the link that gives
  it the variable's name.

`StoreM.visits` lists the hosts of a run, `Fs.Shows` says what a reader of a path finds in a
filesystem, `Staged` says that a list of hosts shows a list of states one after another, and
`SeesIn` says what calls that met such hosts in order saw (`Staged.sees`).
-/

namespace FirmwareVars

/-! ## §1. What a reader finds -/

namespace Fs

/-- What a reader of `p` finds in `fs`: no entry, or the readable file `i` holding `bs`. -/
def Shows (fs : Fs) (p : Path) : Option (Nat × Bytes) → Prop
  | none => fs.find p = .error .noEntry
  | some (i, bs) => fs.find p = .ok i ∧ fs.allows i readBit ∧ fs.read i = .ok bs

namespace Shows

variable {fs fs' : Fs} {p : Path}

/-- What a reader finds depends on the tree only, not on flag words. -/
theorem sameTree {o : Option (Nat × Bytes)} (h : fs.Shows p o) (ht : SameTree fs fs') :
    fs'.Shows p o := by
  match o, h with
  | none, h =>
    show fs'.find p = _
    rw [find_congr ht.sameSkeleton]
    exact h
  | some (i, bs), ⟨hf, hr, hd⟩ =>
    refine ⟨?_, ?_, ?_⟩
    · rw [find_congr ht.sameSkeleton]
      exact hf
    · rw [ht.sameSkeleton.allows i ownerBit_read]
      exact hr
    · rw [ht.read]
      exact hd

/-- A change that keeps the skeleton and gives the found file new bytes. -/
theorem of_sameSkeleton {i : Nat} {bs bs' : Bytes} (h : fs.Shows p (some (i, bs)))
    (sk : SameSkeleton fs fs') (hd : fs'.read i = .ok bs') : fs'.Shows p (some (i, bs')) := by
  obtain ⟨hf, hr, -⟩ := h
  refine ⟨?_, ?_, hd⟩
  · rw [find_congr sk]
    exact hf
  · rw [sk.allows i ownerBit_read]
    exact hr

theorem append {i : Nat} {d : Bytes} (h : fs.Shows p (some (i, d))) (bytes : Bytes) :
    (fs.append i bytes).Shows p (some (i, d ++ bytes)) :=
  h.of_sameSkeleton (sameSkeleton_append fs i bytes) (read_append_self h.2.2 bytes)

/-- The record a path holds is what a reader finds there. -/
theorem contents {o : Option (Nat × Bytes)} (h : fs.Shows p o) :
    fs.contents p = o.map Prod.snd := by
  unfold Fs.contents
  match o, h with
  | none, h =>
    have hf : fs.find p = .error .noEntry := h
    rw [hf]
    rfl
  | some (i, bs), ⟨hf, _, hd⟩ =>
    rw [hf]
    show (fs.read i).toOption = _
    rw [hd]
    rfl

end Shows

end Fs

namespace Store

open Fs

variable {c : Config} {fs : Fs} {r : Nat} {k : VarKey}

end Store

/-! ## §2. Hosts that pass through states -/

/-- `Staged p i os hs`: the hosts `hs` show the states `os` at `p` one after another. A state is
no file (`none`) or inode `i` holding some bytes; `hs` is made of one run of hosts per state, in
order, every host of a run showing its state, and a run may be empty. -/
inductive Staged (p : Path) (i : Nat) : List (Option Bytes) → List Host → Prop
  | nil : Staged p i [] []
  | cons {o : Option Bytes} {os : List (Option Bytes)} {pre hs : List Host} :
      (∀ g ∈ pre, g.fs.Shows p (o.map (Prod.mk i))) → Staged p i os hs →
        Staged p i (o :: os) (pre ++ hs)

namespace Staged

variable {p : Path} {i : Nat} {o : Option Bytes} {os : List (Option Bytes)} {hs hs' : List Host}

theorem single (h : ∀ g ∈ hs, g.fs.Shows p (o.map (Prod.mk i))) : Staged p i [o] hs := by
  simpa using cons h nil

/-- A state that no host shows may be passed over. -/
theorem skip (h : Staged p i os hs) : Staged p i (o :: os) hs := by
  show Staged p i (o :: os) ([] ++ hs)
  exact cons (by simp) h

/-- Hosts that show the last state may come after the others. -/
theorem append_after (h : Staged p i (os ++ [o]) hs)
    (h' : ∀ g ∈ hs', g.fs.Shows p (o.map (Prod.mk i))) : Staged p i (os ++ [o]) (hs ++ hs') := by
  induction os generalizing hs with
  | nil =>
    cases h with
    | cons hfirst hrest =>
      cases hrest
      rw [List.append_nil]
      exact single fun g hg => (List.mem_append.mp hg).elim (hfirst g) (h' g)
  | cons o' os ih =>
    cases h with
    | cons hfirst hrest =>
      rw [List.append_assoc]
      exact cons hfirst (ih hrest)

end Staged

namespace SeesIn

variable {p : Path} {i : Nat} {o : Option Bytes} {os : List (Option Bytes)}
  {t t' : List (Call × Host)}

end SeesIn

namespace Host

variable {α : Type}

/-- When each call of a run relates the host it meets to the host it leaves by a reflexive and
transitive `R`, every host the run passes through is related to the first. -/
theorem visited_rel {R : Host → Host → Prop} (hrefl : ∀ g, R g g)
    (htrans : ∀ g₁ g₂ g₃, R g₁ g₂ → R g₂ g₃ → R g₁ g₃) {x : Sys α} {h : Host}
    (hx : ∀ ch ∈ trace x h, R ch.2 (ch.2.exec ch.1).2) :
    ∀ g ∈ visited (trace x h) (run x h).2, R h g := by
  induction x generalizing h with
  | pure a =>
    intro g hg
    rw [trace_pure, run_pure, visited, List.map_nil, List.nil_append,
      List.mem_singleton] at hg
    rw [hg]
    exact hrefl h
  | call c k ih =>
    intro g hg
    rw [trace_call, run_call, visited, List.map_cons, List.cons_append,
      List.mem_cons] at hg
    rcases hg with rfl | hg
    · exact hrefl _
    · -- the first call relates `h` to the host the rest of the run starts from
      have hc := hx (c, h) List.mem_cons_self
      exact htrans _ _ _ hc (ih _ (fun ch hch => hx ch (List.mem_cons_of_mem _ hch)) g hg)

end Host

namespace StoreM

variable {α β : Type}

/-- The hosts a run of `x` alone passes through: the host each call meets, then the host the run
leaves. -/
def visits (x : StoreM α) (st : Store) (h : Host) : List Host :=
  Host.visited (trace x st h) (exec x st h).2

@[simp] theorem visits_throw (e : StoreError) (st : Store) (h : Host) :
    visits (throw e : StoreM α) st h = [h] := rfl

/-- A sequence passes through the hosts of its first part's calls and, when that succeeded, the
hosts of the rest. -/
theorem visits_bind (x : StoreM α) (f : α → StoreM β) (st : Store) (h : Host) :
    visits (x >>= f) st h =
      match exec x st h with
      | ((.ok a, st'), h') => (trace x st h).map (·.2) ++ visits (f a) st' h'
      | ((.error _, _), _) => visits x st h := by
  unfold visits Host.visited
  rw [trace_bind, exec_bind]
  generalize exec x st h = e
  rcases e with ⟨⟨r, st'⟩, h'⟩
  cases r <;> simp

theorem visits_bind_error {x : StoreM α} {f : α → StoreM β} {st st' : Store} {h h' : Host}
    {e : StoreError} (hx : exec x st h = ((.error e, st'), h')) :
    visits (x >>= f) st h = visits x st h := by
  rw [visits_bind, hx]

@[simp] theorem visits_lift (x : Sys α) (st : Store) (h : Host) :
    visits (x : StoreM α) st h = Host.visited (Host.trace x h) (Host.run x h).2 := by
  unfold visits
  rw [trace_lift, exec_lift]

theorem visits_attempt (x : StoreM α) (st : Store) (h : Host) :
    visits (attempt x) st h = visits x st h := by
  unfold visits
  rw [trace_attempt, exec_attempt]

/-- When every call a run can make relates the host it meets to the one it leaves by a
reflexive and transitive `R`, every host a run alone passes through is related to the first. -/
theorem EveryCall.visits {R : Host → Host → Prop} (hrefl : ∀ g, R g g)
    (htrans : ∀ g₁ g₂ g₃, R g₁ g₂ → R g₂ g₃ → R g₁ g₃) {P : Call → Prop} {x : StoreM α}
    (hx : EveryCall P x) (hP : ∀ c, P c → ∀ g, R g (g.exec c).2) (st : Store) (h : Host) :
    ∀ g ∈ visits x st h, R h g :=
  Host.visited_rel hrefl htrans fun ch hch =>
    hP _ (hx st _ _ _ (Meets.of_trace x st h) ch hch) ch.2

end StoreM

/-! ## §4. The immutable window -/

/-- A call of a window changes only flag words and notes. -/
theorem Call.Flags.flagsOnly {hd : Handle} {c : Call} (hc : c.Flags hd) (g : Host) :
    Host.FlagsOnly g (g.exec c).2 := by
  rcases hc with rfl | ⟨w, rfl⟩ | ⟨n, rfl⟩
  · rw [show (g.exec (.getFlags hd)).2 = g from Host.run_getFlags_host g hd]
    exact .refl g
  · exact Host.run_setFlags_flagsOnly g hd w
  · exact .note g n

namespace Guard

open StoreM

variable {α : Type} {p : Path} {i : Nat} {o : Option Bytes} {os : List (Option Bytes)}

end Guard

/-! ## §5. Rewriting a file in place -/

namespace Store

open StoreM Fs

variable {st : Store} {h : Host} {p : Path} {i : Nat} {d : Bytes}

section Linked

variable {fs : Fs} {r : Nat} {q s bytes : Bytes} {mode : Nat}

end Linked

variable {r : Nat} {k : VarKey}

end Store

/-! ## §7. A whole set -/

namespace Store

open StoreM Fs

variable {st : Store} {h : Host} {p : Path} {d : Bytes}

variable {r i : Nat} {k : VarKey}

end Store

end FirmwareVars
