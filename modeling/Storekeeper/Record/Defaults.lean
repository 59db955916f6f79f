import Storekeeper.Record.Basic

/-!
# Default records

The sample records of development and test databases, with fixed identifiers, parents before
children, and the order in which the collections are emptied, children before parents.
-/

namespace Storekeeper.Record

/-- The collections, children before parents. -/
def collections : List String :=
  [ProjectTask.collection, ProjectMember.collection, Project.collection, User.collection]

/-- The default users. -/
def defaultUsers (now : Instant) : List User :=
  [.create now "seed-user-admin" "Ada Admin" "admin@example.com" .admin,
    .create now "seed-user-member" "Max Member" "member@example.com" .member]

/-- The default projects. -/
def defaultProjects (now : Instant) : List Project :=
  [(Project.create now "seed-project-apollo" "Apollo" "seed-user-admin").describe
      "Sample project with a few open tasks",
    .create now "seed-project-gemini" "Gemini" "seed-user-member"]

/-- The default memberships. -/
def defaultMembers : List ProjectMember :=
  [⟨"seed-member-apollo-admin", "seed-project-apollo", "seed-user-admin", .owner⟩,
    ⟨"seed-member-apollo-member", "seed-project-apollo", "seed-user-member", .editor⟩,
    ⟨"seed-member-gemini-member", "seed-project-gemini", "seed-user-member", .owner⟩]

/-- The default tasks. -/
def defaultTasks : List ProjectTask :=
  [⟨"seed-task-apollo-1", "seed-project-apollo", "Draft the launch checklist", .inProgress,
      some "seed-user-admin"⟩,
    ⟨"seed-task-apollo-2", "seed-project-apollo", "Review telemetry dashboard", .todo, none⟩]

/-- The default records in stored form, parents before children. -/
def defaults (now : Instant) : List StoredRecord :=
  (defaultUsers now).map User.stored ++ (defaultProjects now).map Project.stored
    ++ defaultMembers.map ProjectMember.stored ++ defaultTasks.map ProjectTask.stored

end Storekeeper.Record
