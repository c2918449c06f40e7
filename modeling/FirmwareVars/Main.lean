import FirmwareVars.Cli.Run

/-!
# The program

`varstore` on the machine's own files. `Cli.execute` reads the command line and decides
everything; this layer makes its system calls through the Lean runtime and prints how the run
ended.

The runtime offers this layer no directory listing, no filesystem type, no hard link and no inode
flags, so those calls answer as a filesystem without them would: a listing fails with
`EOPNOTSUPP`, every root is of an unknown type (so new variables go through a staging file), the
exclusive link of a staging file becomes an exclusive create of the target with the staging
file's bytes and bits, and the flag calls fail with `ENOTTY`, which the store reads as "no
flags". A file is known by its path, so a file replaced under the same name between two opens
is not noticed. Writes through one descriptor go one after another, each where the last ended,
which is where the store asks for them.
-/

namespace FirmwareVars

namespace Machine

/-- What the layer keeps between calls: the path of every descriptor number, the handles open
for writing, and the bits each staging file was created with. -/
structure State where
  paths : Array Path
  writers : List (Nat × IO.FS.Handle)
  created : List (Path × Nat)

/-- The error number behind a runtime error. -/
def errnoOf : IO.Error → Nat
  | .alreadyExists _ c _ | .otherError c _ | .resourceBusy c _ | .resourceVanished c _
  | .unsupportedOperation c _ | .hardwareFault c _ | .unsatisfiedConstraints c _
  | .illegalOperation c _ | .protocolError c _ | .timeExpired c _ | .interrupted _ c _
  | .noFileOrDirectory _ c _ | .invalidArgument _ c _ | .permissionDenied _ c _
  | .resourceExhausted _ c _ | .inappropriateType _ c _ | .noSuchThing _ c _ => c.toNat
  | .unexpectedEof | .userError _ => 5

/-- Runs an action, turning its failure into an error number. -/
def guarded {α : Type} (x : IO α) : IO (Except OsError α) := do
  try
    pure (.ok (← x))
  catch e =>
    pure (.error (.errno (errnoOf e)))

/-- The permission bits of a mode as the runtime takes them. -/
def rightsOf (mode : Nat) : IO.FileRight :=
  let bit (n : Nat) : Bool := mode &&& n != 0
  { user := ⟨bit 0o400, bit 0o200, bit 0o100⟩,
    group := ⟨bit 0o40, bit 0o20, bit 0o10⟩,
    other := ⟨bit 0o4, bit 0o2, bit 0o1⟩ }

/-- The descriptor number of a path. -/
def numberOf (st : IO.Ref State) (p : Path) : IO Nat := do
  let s ← st.get
  match s.paths.findIdx? (· == p) with
  | some i => pure i
  | none =>
    st.set { s with paths := s.paths.push p }
    pure s.paths.size

/-- The path of a descriptor. -/
def pathOf (st : IO.Ref State) (h : Handle) : IO Path := do
  pure ((← st.get).paths[h.ino]?.getD ⟨[]⟩)

/-- Opens a path in one of the store's modes. -/
def openIn (st : IO.Ref State) (p : Path) : OpenMode → IO (Except OsError Handle)
  | .read => do
    match ← guarded (IO.FS.Handle.mk p.display .read) with
    | .error e => pure (.error e)
    | .ok _ => pure (.ok ⟨← numberOf st p, .read⟩)
  | m => do
    let (mode, access) := match m with
      | .write true => (IO.FS.Mode.append, Access.append)
      | .write false => (.readWrite, .write)
      | .createNew _ => (.writeNew, .write)
      | _ => (.write, .write)
    match ← guarded (IO.FS.Handle.mk p.display mode) with
    | .error e => pure (.error e)
    | .ok h => do
      if let .createNew bits := m then
        let _ ← guarded (IO.setAccessRights p.display (rightsOf (bits &&& 0o755)))
        st.modify fun s => { s with created := (p, bits) :: s.created }
      let n ← numberOf st p
      st.modify fun s => { s with writers := (n, h) :: s.writers.filter (·.1 != n) }
      pure (.ok ⟨n, access⟩)

/-- The write handle of a descriptor. -/
def writerOf (st : IO.Ref State) (h : Handle) : IO (Except OsError IO.FS.Handle) := do
  if h.access == .read then return .error .badDescriptor
  match (← st.get).writers.find? (·.1 == h.ino) with
  | some (_, w) => pure (.ok w)
  | none => pure (.error .badDescriptor)

/-- Carries out one call. -/
def exec (st : IO.Ref State) : (c : Call) → IO c.Reply
  | .openPath p m => openIn st p m
  | .observe p => openIn st p .read
  | .reopen p m => openIn st p m
  | .publish staged target => do
    match ← guarded (IO.FS.readBinFile staged.display) with
    | .error e => pure (.error e)
    | .ok bytes =>
      match ← guarded (IO.FS.Handle.mk target.display .writeNew) with
      | .error e => pure (.error e)
      | .ok h =>
        let bits := ((← st.get).created.find? (·.1 == staged)).map (·.2) |>.getD 0o644
        let _ ← guarded (IO.setAccessRights target.display (rightsOf (bits &&& 0o755)))
        guarded (do h.write bytes; h.flush)
  | .read h off len => do
    if h.access != .read then return .error .badDescriptor
    let p ← pathOf st h
    match ← guarded (IO.FS.readBinFile p.display) with
    | .ok bytes => pure (readSpan off len bytes.toList)
    | .error e => pure (.error e)
  | .readChunks h off size => do
    if h.access != .read then return [.error .badDescriptor]
    let p ← pathOf st h
    match ← guarded (IO.FS.readBinFile p.display) with
    | .ok bytes => pure (fullReads size (bytes.toList.drop off))
    | .error e => pure [.error e]
  | .write h _ data => do
    match ← writerOf st h with
    | .error e => pure (.error e)
    | .ok w => do
      match ← guarded (do w.write ⟨data.toArray⟩; w.flush) with
      | .ok () => pure (.ok data.length)
      | .error e => pure (.error e)
  | .truncate h _ => do
    match ← writerOf st h with
    | .error e => pure (.error e)
    | .ok w => guarded w.truncate
  | .stat p => do
    match ← guarded (IO.FS.readBinFile p.display) with
    | .ok bytes => pure (.ok bytes.size)
    | .error e => pure (.error e)
  | .unlink p => guarded (IO.FS.removeFile p.display)
  | .chmod p mode => guarded (IO.setAccessRights p.display (rightsOf mode))
  | .readDir _ => pure (.error (.errno 95))
  | .statfs p => do
    match ← guarded (IO.FS.Handle.mk p.display .read) with
    | .ok _ => pure (.ok .host)
    | .error e => pure (.error e)
  | .getFlags _ => pure (.error (.errno 25))
  | .setFlags _ _ => pure (.error (.errno 25))
  | .note _ => pure ()

/-- Runs a program of system calls on the machine. -/
def run {α : Type} (st : IO.Ref State) : Sys α → IO α
  | .pure a => pure a
  | .call c k => do run st (k (← exec st c))

end Machine

end FirmwareVars

open FirmwareVars in
/-- Runs the command line and exits with its code. -/
def main (args : List String) : IO UInt32 := do
  let env ← IO.getEnv "EFIVARFS_PATH"
  let st ← IO.mkRef ({ paths := #[], writers := [], created := [] } : Machine.State)
  let exit ← Machine.run st (Cli.execute env args)
  IO.print exit.stdout
  for line in exit.stderr do
    IO.eprintln line
  pure exit.code.toUInt32
