import SiteGen.Disk.Operations
import SiteGen.Error
import SiteGen.Warning

/-!
# Runs

A run works on a disk and may stop with an error; what it has done and remarked until then stays.

* `Run` is a computation on a `World`: a disk, and the warnings so far.
* `Run.inspect` looks at the disk, `Run.change` and `Run.tryChange` change it, `Run.warn` remarks
  something.
* The equations beside `Run.bind_of_ok` and `Run.bind_of_error` say how runs go on after one another.
-/

namespace SiteGen

/-- What a run **works on**. -/
structure World where
  /-- The disk. -/
  disk : Disk
  /-- The warnings so far, in order. -/
  warnings : List Warning

/-- A computation on a world that may **stop with an error**. -/
abbrev Run (α : Type) := ExceptT Error (StateM World) α

namespace Run

variable {α β : Type}

/-- The outcome of a run on a world, and the world afterwards. -/
def on (x : Run α) (w : World) : Except Error α × World := x w

/-- Stops. -/
def fail (e : Error) : Run α := fun w => (.error e, w)

/-- Looks at the disk. -/
def inspect (f : Disk → α) : Run α := fun w => (.ok (f w.disk), w)

/-- Goes on with a result, or stops. -/
def ofResult : Except Error α → Run α
  | .ok a => fun w => (.ok a, w)
  | .error e => fun w => (.error e, w)

/-- Looks at the disk in a way that may fail. -/
def query (f : Disk → Except Fault α) : Run α := fun w =>
  match f w.disk with
  | .ok a => (.ok a, w)
  | .error fault => (.error (.disk fault), w)

/-- **Changes the disk**, all or nothing. -/
def change (f : Disk → Except Fault Disk) : Run Unit := fun w =>
  match f w.disk with
  | .ok d => (.ok (), { w with disk := d })
  | .error fault => (.error (.disk fault), w)

/-- **Changes the disk**, as far as it goes. -/
def tryChange (f : Disk → Disk × Option Fault) : Run Unit := fun w =>
  match f w.disk with
  | (d, none) => (.ok (), { w with disk := d })
  | (d, some fault) => (.error (.disk fault), { w with disk := d })

/-- **Remarks** something. -/
def warn (warning : Warning) : Run Unit := fun w =>
  (.ok (), { w with warnings := w.warnings ++ [warning] })

theorem pure_on (a : α) (w : World) : (pure a : Run α).on w = (.ok a, w) := rfl

theorem bind_of_ok {x : Run α} {f : α → Run β} {w w' : World} {a : α} (h : x.on w = (.ok a, w')) :
    (x >>= f).on w = (f a).on w' := by
  change (ExceptT.bindCont f (x.on w).1) (x.on w).2 = _
  rw [h]
  rfl

theorem bind_of_error {x : Run α} {f : α → Run β} {w w' : World} {e : Error}
    (h : x.on w = (.error e, w')) : (x >>= f).on w = (.error e, w') := by
  change (ExceptT.bindCont f (x.on w).1) (x.on w).2 = _
  rw [h]
  rfl

/-- **Both parts** of a run without an error end without one. -/
theorem parts_of_ok {x : Run α} {f : α → Run β} {w w'' : World} {b : β}
    (h : (x >>= f).on w = (.ok b, w'')) : ∃ a w', x.on w = (.ok a, w') ∧ (f a).on w' = (.ok b, w'') := by
  rcases hx : x.on w with ⟨r, w'⟩
  cases r with
  | ok a => exact ⟨a, w', rfl, (bind_of_ok hx).symm.trans h⟩
  | error e =>
    rw [bind_of_error hx] at h
    cases (Prod.mk.inj h).1

end Run

end SiteGen
