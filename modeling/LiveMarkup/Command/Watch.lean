import LiveMarkup.Command.Run
/-
# LiveMarkup.Command.Watch -- following a project while its files change

A watch looks at the disk from time to time.  What its sources differ in from one look
to the next are changes.  They are gathered until a look finds nothing new, and are then
followed together, so that a burst of writing is one round of work.
-/

namespace LiveMarkup.Command

set_option autoImplicit false

/-- The sources of a store and what they hold. -/
def sourceContents (s : DiskStore) : OrderedMap Path FileContent :=
  let paths := (SourceStore.list s).toOption.getD []
  .ofList <| paths.filterMap fun path =>
    match s.disk.node path with
    | .ok (_, .file content) => some (path, content)
    | _ => none

/-- What happened to files that were `before` and are `after`. -/
def changesBetween (before after : OrderedMap Path FileContent) : List Change :=
  let gone := before.keys.filter fun path => !after.contains path
  let news := after.entries.filterMap fun (path, content) =>
    match before.get? path with
    | none => some ⟨.created, path⟩
    | some old => if old = content then none else some ⟨.changed, path⟩
  gone.map (⟨.deleted, ·⟩) ++ news

/-- A project that is being followed. -/
structure Watch where
  session : Session DiskStore
  /-- The sources as the last look found or left them. -/
  seen : OrderedMap Path FileContent
  /-- Changes that wait for a quiet look. -/
  pending : ChangeSet

namespace Watch

/-- A watch of a project that was just read. -/
def ofSession (s : Session DiskStore) : Watch := ⟨s, sourceContents s.store, .empty⟩

/-- Follow the changes that wait; the text is for the error channel. -/
def settle (w : Workshop) (t : Watch) : Watch × String :=
  let done := t.session.runCycle w t.pending
  let (result, s) := done.value
  let notices := String.join (done.notices.map fun n => line n.text)
  let outcome := match result with
    | .ok report => summaryLine report
    | .error f => (Failure.ofSession f).text
  (.ofSession s, notices ++ outcome)

/-- Look at the disk: gather what changed, or follow what was gathered when nothing did. -/
def look (w : Workshop) (d : Disk) (t : Watch) : Watch × String :=
  let s := { t.session with store := { t.session.store with disk := d } }
  let now := sourceContents s.store
  let changes := changesBetween t.seen now
  let t : Watch := ⟨s, now, t.pending.add changes⟩
  if changes.isEmpty && !t.pending.isEmpty then t.settle w else (t, "")

end Watch

end LiveMarkup.Command
