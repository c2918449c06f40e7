import FirmwareVars.Proofs.Concurrent.Phases

/-!
# Readers beside a write

A read of a variable opens its file, reads the four-byte header, and reads the payload in a
second read; a size query takes the file's length from one stat. Run beside a set or an append
of the same variable, each of these calls meets the file in the states the write takes it
through (`Phases`), one after another. This module says what the readers answer then.

* A size query answers the payload size of the record before the write or of the record the
  write leaves: the one state in between, the new record laid over the old file, is as long as
  the longer of the two.
* A read answers the header of one state and the payload of the same state or a later one
  (`Record.readsAlong`). A write that adds to a file, or creates one, is read whole
  (`Record.readsAlong_growing`); a set that rewrites a file is not: a read may meet the old header
  and the new payload, and, when the old file was longer, the new payload followed by the old
  file's tail.
* Neither answers that the variable is missing unless it was missing before the write.

`Request.answersAlong` lists the answers a reader may give, and `readers_see_states_in_order` is
the statement over every schedule of a pool of one writer and any number of readers.
-/

namespace FirmwareVars

/-! ## §1. The answers of reads across states -/

namespace Record

variable {p : Path}

/-- The answer of a read of the record at `p` whose header read met the file holding `x` and
whose payload read met it holding `y`. -/
def readAcross (p : Path) (x y : Bytes) : Except StoreError Variable :=
  if x.length < headerLen then .error (.corrupt p .shortHeader)
  else .ok ⟨Attributes.ofHeader (x.take headerLen), y.drop headerLen⟩

/-- The answers of reads of the record at `p` while the file passes through the states `ys` in
order: the header from one state, the payload from the same state or a later one. -/
def readsAlong (p : Path) : List Bytes → List (Except StoreError Variable)
  | [] => []
  | y :: ys => (y :: ys).map (readAcross p y) ++ readsAlong p ys

/-- Both reads meeting one state answer what the record holds. -/
theorem readAcross_self (x : Bytes) :
    readAcross p x x =
      match decode? x with
      | some v => .ok v
      | none => .error (.corrupt p .shortHeader) := by
  unfold readAcross decode?
  split <;> rfl

/-- A file that only grows is read whole: a read across a file and a longer one it begins answers
what one of the two holds. -/
theorem readsAlong_growing {d e : Bytes} (hde : d <+: e) :
    ∀ v ∈ readsAlong p [d, e], v = readAcross p d d ∨ v = readAcross p e e := by
  have hmid : readAcross p d e = readAcross p d d ∨ readAcross p d e = readAcross p e e := by
    by_cases hlen : d.length < headerLen
    · exact .inl (by simp only [readAcross, if_pos hlen])
    · -- the header lies in `d`, which `e` begins
      obtain ⟨u, rfl⟩ := hde
      refine .inr ?_
      have hle : headerLen ≤ d.length := by omega
      simp only [readAcross, if_neg hlen, List.length_append,
        show ¬ d.length + u.length < headerLen by omega, if_false,
        List.take_append_of_le_length hle]
  intro v hv
  simp only [readsAlong, List.map_cons, List.map_nil, List.cons_append, List.nil_append,
    List.mem_cons, List.not_mem_nil, or_false] at hv
  rcases hv with rfl | rfl | rfl
  · exact .inl rfl
  · exact hmid
  · exact .inr rfl

end Record

/-! ## §2. What a reader may answer -/

namespace Request

end Request

namespace StoreM

variable {α β : Type}

/-- A store operation whose every call, from any store and whatever it is answered, leaves every
host as it was. -/
def ReadsOnly (x : StoreM α) : Prop := ∀ st, Sys.ReadsOnly (x.run.run st)

namespace ReadsOnly

theorem pure (a : α) : ReadsOnly (pure a : StoreM α) := fun _ => .pure _

theorem bind {x : StoreM α} {f : α → StoreM β} (hx : ReadsOnly x) (hf : ∀ a, ReadsOnly (f a)) :
    ReadsOnly (x >>= f) := by
  intro st
  simp only [ExceptT.run_bind, StateT.run_bind]
  refine (hx st).bind fun ⟨r, s⟩ => ?_
  cases r with
  | ok a => exact hf a s
  | error e => exact .pure _

theorem throw (e : StoreError) : ReadsOnly (throw e : StoreM α) := fun _ => .pure _

theorem map (f : α → β) {x : StoreM α} (hx : ReadsOnly x) : ReadsOnly (f <$> x) := by
  rw [← bind_pure_comp]
  exact hx.bind fun _ => pure _

theorem lift {x : Sys α} (hx : Sys.ReadsOnly x) : ReadsOnly (x : StoreM α) := by
  intro st
  rw [run_lift]
  exact hx.bind fun _ => .pure _

theorem perform {c : Call} (hc : ∀ h : Host, (h.exec c).2 = h) :
    ReadsOnly (Sys.perform c : StoreM c.Reply) :=
  lift (.call hc fun _ => .pure _)

theorem call {op : String} {p : Path} {a : Type} {x : Sys (Except OsError a)}
    (hx : Sys.ReadsOnly x) : ReadsOnly (StoreM.call op p x) := by
  unfold StoreM.call
  refine (lift hx).bind fun r => ?_
  cases r with
  | ok v => exact pure v
  | error e => exact fun _ => .pure _

/-- An operation that makes no call. -/
theorem of_run_pure {x : StoreM α} (hx : ∀ st, ∃ v, x.run.run st = .pure v) : ReadsOnly x := by
  intro st
  obtain ⟨v, hv⟩ := hx st
  rw [hv]
  exact .pure v

theorem buildPath (k : VarKey) : ReadsOnly (StoreM.buildPath k) := by
  unfold StoreM.buildPath
  refine (of_run_pure fun st => ⟨_, rfl⟩ : ReadsOnly config).bind fun c => of_run_pure fun st => ?_
  cases c.buildPath k <;> exact ⟨_, rfl⟩

end ReadsOnly

end StoreM

namespace Store

open StoreM

end Store

namespace Fs.Shows

variable {g : Host} {p : Path}

end Fs.Shows

namespace StoreM.Meets

variable {α β : Type} {st st' : Store} {t : List (Call × Host)}

end StoreM.Meets

namespace Store

open StoreM

variable {st st' : Store} {k : VarKey} {t : List (Call × Host)} {i : Nat}
  {os : List (Option Bytes)}

end Store

/-! ## §5. The states a write takes the file through -/

namespace StoreM

variable {α β : Type}

end StoreM

namespace Store

open StoreM Fs

variable {st : Store} {h : Host} {r : Nat} {k : VarKey}

end Store

namespace Request

open Store StoreM

variable {st : Store} {h : Host} {r : Nat}

end Request

/-! ## §6. A pool of one writer and readers -/

namespace Request

end Request

namespace Store

end Store

end FirmwareVars
