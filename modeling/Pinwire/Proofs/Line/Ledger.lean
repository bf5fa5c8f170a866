import Pinwire.ErrorKind
import Pinwire.Line.Error
import Pinwire.Proofs.Handles

/-!
# Ledgers of chips and lines

A ledger lists what a backend granted, refused and got back. Chips and line requests are numbered in
the order in which they are granted, each kind by itself. What is under custody at some time are the
numbers behind each handle, and the ledger up to then.

The invariant is `Custody.Balanced`: whatever was granted has either been released, once, or is
behind one of the handles.
-/

namespace Pinwire

/-- What a backend grants: open chips, and requests for lines of them. -/
inductive Resource where
  | chip
  | lines
  deriving Repr, DecidableEq

inductive LedgerEntry where
  | granted (kind : Resource) (number : Nat)
  | refused (kind : Resource) (fault : Fault)
  | released (kind : Resource) (number : Nat)
  deriving Repr, DecidableEq

/-- What a backend granted, refused and got back, in order. -/
abbrev Ledger := List LedgerEntry

namespace Ledger

def granted (ledger : Ledger) (kind : Resource) : List Nat :=
  ledger.filterMap fun
    | .granted other number => if other = kind then some number else none
    | _ => none

def released (ledger : Ledger) (kind : Resource) : List Nat :=
  ledger.filterMap fun
    | .released other number => if other = kind then some number else none
    | _ => none

/-- What was granted and not released: the open chips, or the live requests. -/
def live (ledger : Ledger) (kind : Resource) : List Nat :=
  (ledger.granted kind).filter fun number => number ∉ ledger.released kind

/-- The number of what is granted next. -/
def next (ledger : Ledger) (kind : Resource) : Nat :=
  (ledger.granted kind).length

variable (earlier later : Ledger) (kind : Resource)

@[simp]
theorem granted_append :
    granted (earlier ++ later) kind = earlier.granted kind ++ later.granted kind :=
  List.filterMap_append

@[simp]
theorem released_append :
    released (earlier ++ later) kind = earlier.released kind ++ later.released kind :=
  List.filterMap_append

theorem next_append :
    next (earlier ++ later) kind = earlier.next kind + (later.granted kind).length := by
  rw [next, granted_append, List.length_append, next]

end Ledger

/-- The numbers of what one handle holds. -/
structure Held where
  chip : Nat
  lines : Nat
  deriving Repr, DecidableEq

def Held.number (held : Held) : Resource → Nat
  | .chip => held.chip
  | .lines => held.lines

namespace Handles

/-- What handles hold of one kind. -/
def numbers (handles : Handles Held) (kind : Resource) : List Nat :=
  handles.map fun entry => entry.2.number kind

/-- The entries of all handles releasing what they hold, each its lines before its chip. -/
def releases (handles : Handles Held) : Ledger :=
  handles.flatMap fun entry => [.released .lines entry.2.lines, .released .chip entry.2.chip]

theorem numbers_perm {handles handles' : Handles Held} (same : handles.Perm handles')
    (kind : Resource) : (handles.numbers kind).Perm (handles'.numbers kind) :=
  same.map _

theorem ledger_releases (handles : Handles Held) (kind : Resource) :
    handles.releases.granted kind = [] ∧ handles.releases.released kind = handles.numbers kind := by
  induction handles with
  | nil => exact ⟨rfl, rfl⟩
  | cons entry handles ih =>
      refine ⟨ih.1, ?_⟩
      rw [numbers, List.map_cons, ← numbers, ← ih.2]
      cases kind <;> rfl

end Handles

/-- What is held behind each handle, and what the ledger lists. -/
structure Custody where
  handles : Handles Held
  ledger : Ledger
  deriving Repr, DecidableEq

/-- How an opening that fails leaves a ledger: with its error and the entries that it adds. Errors
of the line bus are reported within some context. -/
inductive Abandoned {ε : Type} (wrap : LineError → ε) (ledger : Ledger) : ε → Ledger → Prop where
  /-- Nothing is asked of the backend. -/
  | early (error : ε) : Abandoned wrap ledger error []
  | chipRefused (path : String) (fault : Fault) :
      Abandoned wrap ledger (wrap (.chipOpenFailed path fault)) [.refused .chip fault]
  /-- The chip is released again, for there is no memory for the line values. -/
  | slotsRefused (cause : AllocationError) :
      Abandoned wrap ledger (wrap (.outOfMemory cause))
        [.granted .chip (ledger.next .chip), .released .chip (ledger.next .chip)]
  /-- The chip is released again, for it does not hand over the lines. -/
  | linesRefused (path : String) (fault : Fault) :
      Abandoned wrap ledger (wrap (.lineRequestFailed path fault))
        [.granted .chip (ledger.next .chip), .refused .lines fault,
          .released .chip (ledger.next .chip)]

namespace Custody

/-- A handle releases its lines and then its chip, if it holds anything. -/
def release (custody : Custody) (number : Nat) : Custody :=
  match custody.handles.find? number with
  | some held =>
      ⟨custody.handles.erase number,
        custody.ledger ++ [.released .lines held.lines, .released .chip held.chip]⟩
  | none => custody

/-- A chip and lines of it are granted, and a handle holds both. -/
def grant (custody : Custody) (number : Nat) : Custody :=
  let held : Held := ⟨custody.ledger.next .chip, custody.ledger.next .lines⟩
  ⟨custody.handles.insert number held,
    custody.ledger ++ [.granted .chip held.chip, .granted .lines held.lines]⟩

/-- All handles release what they hold. -/
def finish (custody : Custody) : Custody :=
  ⟨[], custody.ledger ++ custody.handles.releases⟩

/-- More entries are listed, and the handles hold what they held. -/
def note (custody : Custody) (entries : Ledger) : Custody :=
  { custody with ledger := custody.ledger ++ entries }

end Custody

/-- Things of one kind that are numbered as they are granted: each of them has been released or is
held. -/
structure Account (granted released held : List Nat) : Prop where
  balance : granted.Perm (released ++ held)
  numbers : granted = List.range granted.length

namespace Account

variable {granted released held held' : List Nat} {number : Nat}

theorem grant (account : Account granted released held) :
    Account (granted ++ [granted.length]) released (granted.length :: held) where
  balance := (List.perm_append_singleton _ _).trans
    ((account.balance.cons _).trans List.perm_middle.symm)
  numbers := by
    rw [List.length_append, List.length_singleton, List.range_succ, ← account.numbers]

theorem release (account : Account granted released (number :: held)) :
    Account granted (released ++ [number]) held where
  balance := by
    rw [List.append_assoc, List.singleton_append]
    exact account.balance
  numbers := account.numbers

theorem releaseAll (account : Account granted released held) :
    Account granted (released ++ held) [] where
  balance := by
    rw [List.append_nil]
    exact account.balance
  numbers := account.numbers

theorem of_perm (account : Account granted released held) (same : held.Perm held') :
    Account granted released held' :=
  ⟨account.balance.trans (same.append_left _), account.numbers⟩

theorem nodup (account : Account granted released held) : (released ++ held).Nodup := by
  rw [← account.balance.nodup_iff, account.numbers]
  exact List.nodup_range

/-- What was granted and not released is what is held. -/
theorem live_perm (account : Account granted released held) :
    (granted.filter fun number => number ∉ released).Perm held := by
  have disjoint := (List.nodup_append.1 account.nodup).2.2
  have nothing : released.filter (fun number => number ∉ released) = [] :=
    List.filter_eq_nil_iff.2 fun number member => by simpa using member
  have everything : held.filter (fun number => number ∉ released) = held :=
    List.filter_eq_self.2 fun number member =>
      decide_eq_true fun given => disjoint number given number member rfl
  have filtered := account.balance.filter fun number => number ∉ released
  rwa [List.filter_append, nothing, everything, List.nil_append] at filtered

end Account

namespace Custody

/-- Whatever was granted has either been released or is behind one of the handles. -/
structure Balanced (custody : Custody) : Prop where
  ordered : custody.handles.Ordered
  account : ∀ kind, Account (custody.ledger.granted kind) (custody.ledger.released kind)
    (custody.handles.numbers kind)

namespace Balanced

variable {custody : Custody}

theorem initial : Balanced ⟨[], []⟩ :=
  ⟨List.Pairwise.nil, fun _ => ⟨List.Perm.nil, rfl⟩⟩

theorem release (balanced : Balanced custody) (number : Nat) :
    Balanced (custody.release number) := by
  unfold Custody.release
  split
  · rename_i held found
    have entries := Handles.perm_of_find? balanced.ordered found
    refine ⟨Handles.ordered_erase balanced.ordered number, fun kind => ?_⟩
    have account : Account _ _ ((custody.handles.erase number).numbers kind) :=
      ((balanced.account kind).of_perm (Handles.numbers_perm entries kind)).release
    cases kind <;> simpa [Ledger.granted, Ledger.released, Held.number] using account
  · exact balanced

theorem finish (balanced : Balanced custody) : Balanced custody.finish := by
  refine ⟨List.Pairwise.nil, fun kind => ?_⟩
  rcases custody.handles.ledger_releases kind with ⟨granted, released⟩
  simp only [Custody.finish, Ledger.granted_append, Ledger.released_append, granted, released,
    List.append_nil]
  exact (balanced.account kind).releaseAll

theorem grant (balanced : Balanced custody) {number : Nat}
    (absent : custody.handles.find? number = none) : Balanced (custody.grant number) := by
  have entries (held : Held) :
      (custody.handles.insert number held).Perm ((number, held) :: custody.handles) := by
    have inserted := Handles.insert_perm custody.handles number held
    rwa [Handles.erase_of_absent absent] at inserted
  refine ⟨Handles.ordered_insert balanced.ordered number _, fun kind => ?_⟩
  have numbers := Handles.numbers_perm
    (entries ⟨custody.ledger.next .chip, custody.ledger.next .lines⟩) kind
  have account : Account _ _ (custody.ledger.next kind :: custody.handles.numbers kind) :=
    (balanced.account kind).grant
  rw [← Ledger.next] at account
  cases kind <;>
    simpa [Custody.grant, Ledger.granted, Ledger.released] using account.of_perm numbers.symm

/-- An opening that fails releases what it was granted. -/
theorem abandoned {ε : Type} {wrap : LineError → ε} {error : ε} {entries : Ledger}
    (balanced : Balanced custody) (failed : Abandoned wrap custody.ledger error entries) :
    Balanced (custody.note entries) := by
  refine ⟨balanced.ordered, fun kind => ?_⟩
  have untouched := balanced.account kind
  have closed := (balanced.account kind).grant.release
  cases failed with
  | early error => simpa [note] using untouched
  | chipRefused path fault => simpa [note, Ledger.granted, Ledger.released] using untouched
  | slotsRefused cause =>
      cases kind with
      | chip => simpa [note, Ledger.granted, Ledger.released, Ledger.next] using closed
      | lines => simpa [note, Ledger.granted, Ledger.released] using untouched
  | linesRefused path fault =>
      cases kind with
      | chip => simpa [note, Ledger.granted, Ledger.released, Ledger.next] using closed
      | lines => simpa [note, Ledger.granted, Ledger.released] using untouched

/-- There are as many open chips and live requests as handles that hold something. -/
theorem length_live (balanced : Balanced custody) (kind : Resource) :
    (custody.ledger.live kind).length = custody.handles.length :=
  (balanced.account kind).live_perm.length_eq.trans (List.length_map _)

end Balanced

end Custody

end Pinwire
