import Mathlib.Data.List.Basic
import Mathlib.Tactic.Common

/-!
# Proxy names on the wire

The client names its proxies by their raw names; on the wire a name carries the user.
-/
namespace FrpXtcp.Naming

/-- `strings.CutPrefix`; `none` is `found = false`. -/
def cutPrefix (s pre : String) : Option String :=
  (pre.toList.isPrefixOf? s.toList).map String.ofList

/-- `AddUserPrefix` -/
def addUserPrefix (user name : String) : String :=
  if user = "" then name else user ++ "." ++ name

/-- `StripUserPrefix` -/
def stripUserPrefix (user name : String) : String :=
  if user = "" then name
  else
    match cutPrefix name (user ++ ".") with
    | some trimmed => trimmed
    | none => name

theorem cutPrefix_append (pre s : String) : cutPrefix (pre ++ s) pre = some s := by
  simp [cutPrefix]

/-- The raw name comes back from the wire. -/
@[simp] theorem stripUserPrefix_addUserPrefix (user name : String) :
    stripUserPrefix user (addUserPrefix user name) = name := by
  unfold stripUserPrefix addUserPrefix
  split
  · rfl
  · rw [cutPrefix_append]

/-- Two raw names of one user have different wire names. -/
theorem addUserPrefix_inj {user n n' : String}
    (h : addUserPrefix user n = addUserPrefix user n') : n = n' := by
  have hs := congrArg (stripUserPrefix user) h
  simpa using hs

example : stripUserPrefix "alice" "alice.alice.test" = "alice.test" := by decide

end FrpXtcp.Naming
