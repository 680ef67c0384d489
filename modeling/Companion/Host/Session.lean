import Companion.Files.Tree
import Companion.Host.Basic

/-!
# Sessions

A session is a machine that consists of a file tree, what was logged and what was printed.
-/

namespace Companion

structure Session where
  tree : Tree
  events : List Event := []
  printed : String := ""

abbrev SessionM (α : Type) : Type :=
  StateM Session α

instance : Host SessionM where
  readFile path := fun session => (session.tree.read? path, session)
  makeDirectories path := fun session =>
    let making := session.tree.makeDirectories path
    (making.complete, { session with tree := making.tree })
  writeFile path content := fun session =>
    match session.tree.write? path content with
    | some tree => (true, { session with tree })
    | none => (false, session)
  log event := fun session => ((), { session with events := session.events ++ [event] })
  print text := fun session => ((), { session with printed := session.printed ++ text })

end Companion
