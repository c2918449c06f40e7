import FirmwareVars.Proofs.Run

/-!
# The immutable window

A write clears the immutable bit of the file it changes and puts the saved word back afterwards
(`Guard.windowed`). Opening and closing such a window only touch flag words, the record of flag
calls and the notes: the tree stays as it was (`openWindow_flagsOnly`, `closeWindow_flagsOnly`).
A windowed operation is therefore its body, run on a host whose flag words may have changed, and
closed afterwards (`exec_windowed`).
-/

namespace FirmwareVars

namespace Host

/-- `h'` is `h` with at most its flag words, its flag calls and its notes changed. -/
def FlagsOnly (h h' : Host) : Prop :=
  ∃ fs fc ns, h' = { h with fs := fs, flagCalls := fc, notes := ns } ∧ Fs.SameTree h.fs fs

namespace FlagsOnly

variable {h h' h'' : Host}

theorem refl (h : Host) : FlagsOnly h h := ⟨h.fs, h.flagCalls, h.notes, rfl, .refl _⟩

theorem trans (h₁ : FlagsOnly h h') (h₂ : FlagsOnly h' h'') : FlagsOnly h h'' := by
  obtain ⟨fs, fc, ns, rfl, ht⟩ := h₁
  obtain ⟨fs', fc', ns', rfl, ht'⟩ := h₂
  exact ⟨fs', fc', ns', rfl, ht.trans ht'⟩

theorem note (h : Host) (n : Note) : FlagsOnly h { h with notes := h.notes ++ [n] } :=
  ⟨h.fs, h.flagCalls, h.notes ++ [n], rfl, .refl _⟩

theorem sameTree (hf : FlagsOnly h h') : Fs.SameTree h.fs h'.fs := by
  obtain ⟨fs, fc, ns, rfl, ht⟩ := hf
  exact ht

theorem quiet (hf : FlagsOnly h h') (hq : h.Quiet) : h'.Quiet := by
  obtain ⟨fs, fc, ns, rfl, -⟩ := hf
  exact ⟨hq.interference, hq.handover⟩

theorem flagPolicy (hf : FlagsOnly h h') : h'.flagPolicy = h.flagPolicy := by
  obtain ⟨fs, fc, ns, rfl, -⟩ := hf
  rfl

/-- A change of the tree that respects trees keeps two hosts related. -/
theorem map (hf : FlagsOnly h h') {F : Fs → Fs}
    (hF : ∀ {fs fs' : Fs}, Fs.SameTree fs fs' → Fs.SameTree (F fs) (F fs')) :
    FlagsOnly { h with fs := F h.fs } { h' with fs := F h'.fs } := by
  obtain ⟨fs, fc, ns, rfl, ht⟩ := hf
  exact ⟨F fs, fc, ns, rfl, hF ht⟩

end FlagsOnly

/-- A query of flags leaves the host as it was. -/
theorem run_getFlags_host (h : Host) (hd : Handle) : (run (Sys.getFlags hd) h).2 = h := by
  show (h.exec (.getFlags hd)).2 = h
  unfold exec
  split <;> rfl

/-- Setting a flag word changes only the flag words and the record of flag calls. -/
theorem run_setFlags_flagsOnly (h : Host) (hd : Handle) (w : UInt32) :
    FlagsOnly h (run (Sys.setFlags hd w) h).2 := by
  show FlagsOnly h (h.exec (.setFlags hd w)).2
  unfold exec
  simp only
  split
  · exact ⟨h.fs, h.flagCalls ++ [w], h.notes, rfl, .refl _⟩
  · exact ⟨h.fs.setFlags hd.ino w, h.flagCalls ++ [w], h.notes, rfl, Fs.sameTree_setFlags _ _ _⟩

end Host

namespace Guard

open StoreM

theorem openWindow_flagsOnly (hd : Handle) (p : Path) (op : String) (h : Host) :
    Host.FlagsOnly h (Host.run (openWindow hd p op) h).2 := by
  unfold openWindow
  rw [Host.run_bind, Host.run_getFlags_host]
  rcases (Host.run (Sys.getFlags hd) h).1 with e | w
  · -- a failed query opens no window; only an unexpected error is reported
    show Host.FlagsOnly h (Host.run (if e.isUnsupported then _ else _) h).2
    split
    · exact .refl h
    · exact .note h _
  · show Host.FlagsOnly h (Host.run (if !isImmutableWord w then _ else _) h).2
    split
    · exact .refl h
    · rw [Host.run_bind]
      refine (Host.run_setFlags_flagsOnly h hd (w &&& ~~~immutableBit)).trans ?_
      rcases (Host.run (Sys.setFlags hd (w &&& ~~~immutableBit)) h).1 with e | u
      · exact .note _ _
      · exact .refl _

theorem closeWindow_flagsOnly (w : Option Window) (h : Host) :
    Host.FlagsOnly h (Host.run (closeWindow w) h).2 := by
  cases w with
  | none => exact .refl h
  | some win =>
    unfold closeWindow
    rw [Host.run_bind]
    refine (Host.run_setFlags_flagsOnly h win.handle win.saved).trans ?_
    rcases (Host.run (Sys.setFlags win.handle win.saved) h).1 with e | u
    · exact .note _ _
    · exact .refl _

/-- A windowed operation is its body run inside the window, which is closed afterwards, the
body's outcome being the outcome. -/
theorem exec_windowed {α : Type} (hd : Handle) (p : Path) (op : String) (body : StoreM α)
    (st : Store) (h : Host) :
    exec (windowed hd p op body) st h =
      ((exec body st (Host.run (openWindow hd p op) h).2).1,
        (Host.run (closeWindow (Host.run (openWindow hd p op) h).1)
          (exec body st (Host.run (openWindow hd p op) h).2).2).2) := by
  unfold windowed
  rw [exec_bind, exec_lift]
  simp only
  rw [exec_bind, exec_attempt]
  simp only
  rw [exec_bind, exec_lift]
  simp only
  rw [exec_ofExcept]

/-- A window around a body that succeeds with a change of the tree that respects trees: the
whole succeeds alike, and the host differs from the changed one only in flag words, flag calls and
notes. -/
theorem exec_windowed_of {α : Type} {hd : Handle} {p : Path} {op : String} {body : StoreM α}
    {st st' : Store} {h : Host} {a : α} {F : Fs → Fs}
    (hF : ∀ {fs fs' : Fs}, Fs.SameTree fs fs' → Fs.SameTree (F fs) (F fs'))
    (hbody : ∀ h1, Host.FlagsOnly h h1 → exec body st h1 = ((.ok a, st'), { h1 with fs := F h1.fs })) :
    ∃ h', exec (windowed hd p op body) st h = ((.ok a, st'), h') ∧
      Host.FlagsOnly { h with fs := F h.fs } h' := by
  have hf1 := openWindow_flagsOnly hd p op h
  rw [exec_windowed, hbody _ hf1]
  exact ⟨_, rfl, (hf1.map hF).trans (closeWindow_flagsOnly _ _)⟩

end Guard

end FirmwareVars
