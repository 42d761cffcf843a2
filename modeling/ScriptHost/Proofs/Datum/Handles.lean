import Mathlib
import ScriptHost.Engine.Request
import ScriptHost.Proofs.Data.Fields

/-! The functions in data and in commands. A function is an id there, wherever in the data it stands;
so data have a list of ids, and other data can be put where the functions are. -/

namespace ScriptHost

namespace Datum

mutual

/-- The ids of the functions in a datum, from left to right. -/
def handles : Datum → List UInt64
  | .function handle => [handle.id]
  | .array items => handlesOfItems items
  | .object fields => handlesOfFields fields
  | _ => []

def handlesOfItems : List Datum → List UInt64
  | [] => []
  | item :: rest => item.handles ++ handlesOfItems rest

def handlesOfFields : List (String × Datum) → List UInt64
  | [] => []
  | (_, value) :: rest => value.handles ++ handlesOfFields rest

end

mutual

/-- The datum with other data where its functions are. -/
def filled (fill : FunctionHandle → Datum) : Datum → Datum
  | .function handle => fill handle
  | .array items => .array (filledItems fill items)
  | .object fields => .object (filledFields fill fields)
  | .undefined => .undefined
  | .null => .null
  | .bool b => .bool b
  | .int i => .int i
  | .float x => .float x
  | .bigInt digits => .bigInt digits
  | .string text => .string text

def filledItems (fill : FunctionHandle → Datum) : List Datum → List Datum
  | [] => []
  | item :: rest => item.filled fill :: filledItems fill rest

def filledFields (fill : FunctionHandle → Datum) :
    List (String × Datum) → List (String × Datum)
  | [] => []
  | (name, value) :: rest => (name, value.filled fill) :: filledFields fill rest

end

theorem handlesOfFields_eq (fields : List (String × Datum)) :
    handlesOfFields fields = fields.flatMap fun field => field.2.handles := by
  induction fields with
  | nil => rfl
  | cons field rest ih => rw [handlesOfFields, ih, List.flatMap_cons]

theorem handles_ofDouble (x : Double) : (ofDouble x).handles = [] := by
  unfold ofDouble
  split
  · split <;> rfl
  · rfl

/-- Fields of one name are put away, but for the last: so the ids are some of those that there were. -/
theorem handlesOfFields_ofList_subperm (entries : List (String × Datum)) :
    (handlesOfFields (Fields.ofList entries)).Subperm (handlesOfFields entries) := by
  obtain ⟨kept, perm, sublist⟩ := Fields.ofList_subperm entries
  simp only [handlesOfFields_eq]
  exact ⟨kept.flatMap fun field => field.2.handles, perm.flatMap_right _, sublist.flatMap _⟩

end Datum

/-- The ids that a command names for functions to be used. -/
def Command.handles : Command → List UInt64
  | .call ⟨.retained id, args⟩ => id :: Datum.handlesOfItems args
  | .call ⟨.path _, args⟩ => Datum.handlesOfItems args
  | .setGlobal a => a.value.handles
  | .eval _ | .getGlobal _ | .release _ | .runJobs => []

/-- Does the command name the id? -/
def Command.Names (command : Command) (id : Nat) : Prop := ∃ named ∈ command.handles, named.toNat = id

/-- The command with other data where functions are in its data. -/
def Command.filled (fill : FunctionHandle → Datum) : Command → Command
  | .call request => .call { request with args := request.args.map (Datum.filled fill) }
  | .setGlobal a => .setGlobal { a with value := a.value.filled fill }
  | command => command

end ScriptHost
