/-!
# What happens to a line

Every line of a text is kept, deleted or modified.  `ActionCounts` counts the lines by what happened
to them; `total` is the number of lines seen and `remaining` the number of lines that are left.
-/

namespace LineSieve

/-- What happened to a single line. -/
inductive LineAction
  | keep
  | delete
  | modify
  deriving Repr, DecidableEq, Inhabited

namespace LineAction

/-- All actions, in the order in which they are reported. -/
def all : List LineAction := [keep, delete, modify]

def name : LineAction → String
  | keep => "keep"
  | delete => "delete"
  | modify => "modify"

end LineAction

/-- How many lines ended up under each action. -/
structure ActionCounts where
  keep : Nat
  delete : Nat
  modify : Nat
  deriving Repr, DecidableEq, Inhabited

namespace ActionCounts

def zero : ActionCounts := ⟨0, 0, 0⟩

def get (counts : ActionCounts) : LineAction → Nat
  | .keep => counts.keep
  | .delete => counts.delete
  | .modify => counts.modify

/-- Count one more line under an action. -/
def record (counts : ActionCounts) : LineAction → ActionCounts
  | .keep => { counts with keep := counts.keep + 1 }
  | .delete => { counts with delete := counts.delete + 1 }
  | .modify => { counts with modify := counts.modify + 1 }

/-- Count lines with the given actions, one after the other. -/
def recordAll (counts : ActionCounts) (actions : List LineAction) : ActionCounts :=
  actions.foldl record counts

/-- The number of lines seen. -/
def total (counts : ActionCounts) : Nat := counts.keep + counts.delete + counts.modify

/-- The number of lines that were not deleted. -/
def remaining (counts : ActionCounts) : Nat := counts.total - counts.delete

/-- The counts in the order in which they are reported. -/
def entries (counts : ActionCounts) : List (LineAction × Nat) :=
  LineAction.all.map fun action => (action, counts.get action)

@[ext] theorem ext_get
    {a b : ActionCounts} (h : ∀ action, a.get action = b.get action) :
    a = b := by
  have hk := h .keep
  have hd := h .delete
  have hm := h .modify
  cases a
  cases b
  simp_all [get]

@[simp] theorem get_record
    (counts : ActionCounts) (recorded action : LineAction) :
    (counts.record recorded).get action =
      counts.get action + if recorded = action then 1 else 0 := by
  cases recorded <;> cases action <;> simp [record, get]

@[simp] theorem get_zero
    (action : LineAction) :
    zero.get action = 0 := by
  cases action <;> rfl

/-- Recording a list of actions adds to each count how often the action occurs. -/
theorem get_recordAll
    (counts : ActionCounts) (actions : List LineAction) (action : LineAction) :
    (counts.recordAll actions).get action = counts.get action + actions.count action := by
  induction actions generalizing counts with
  | nil => simp [recordAll]
  | cons a rest ih =>
    have := ih (counts.record a)
    simp only [recordAll, List.foldl_cons] at this ⊢
    rw [this, get_record, List.count_cons]
    by_cases h : a = action
    · simp [h]
      omega
    · simp [h]

theorem remaining_eq
    (counts : ActionCounts) :
    counts.remaining = counts.keep + counts.modify := by
  simp only [remaining, total]
  omega

end ActionCounts

end LineSieve
