import Storekeeper.Decode.Basic

/-!
# Records

The kinds of things that are kept: users, projects, the members of a project and its tasks.
Each kind is written as an object with its fields in order and read back by its decoder.  A
`StoredRecord` is a record in the form in which it is stored: a document with an identifier in a
collection.
-/

namespace Storekeeper

/-- A document with the collection and the identifier under which it is stored. -/
structure StoredRecord where
  collection : String
  id : String
  document : Json

namespace Record

open Decode

/-- What a user may do. -/
inductive UserRole where
  | admin
  | member
deriving DecidableEq, Repr

/-- The name of a role. -/
def UserRole.name : UserRole → String
  | admin => "admin"
  | member => "member"

/-- The capitalised name of a role. -/
def UserRole.title : UserRole → String
  | admin => "Admin"
  | member => "Member"

/-- A role, by its name. -/
def UserRole.decode : Decoder UserRole := choice [.admin, .member] UserRole.name

/-- A user. -/
structure User where
  id : String
  name : String
  email : String
  role : UserRole
  verified : Bool
  createdAt : Option Instant
  updatedAt : Option Instant
deriving DecidableEq

namespace User

/-- Where users are stored. -/
def collection : String := "users"

/-- A new user, verified and created at the given time. -/
def create (now : Instant) (id name email : String) (role : UserRole) : User :=
  ⟨id, name, email, role, true, some now, some now⟩

/-- A user as a document. -/
def encode (u : User) : Json :=
  .obj [("id", .str u.id), ("name", .str u.name), ("email", .str u.email),
    ("role", .str u.role.name), ("verified", .bool u.verified),
    ("created_at", .ofInstant? u.createdAt), ("updated_at", .ofInstant? u.updatedAt)]

/-- The fields of a user. -/
def fields : List Field :=
  [field "id" text, field "name" text, field "email" text, field "role" UserRole.decode,
    field "verified" flag, field "created_at" (optional instant),
    field "updated_at" (optional instant)]

/-- A user, from its document. -/
def decode : Decoder User := fun j => do
  let ms ← members "User" fields j
  pure { id := ← required ms "id" text
         name := ← required ms "name" text
         email := ← required ms "email" text
         role := ← required ms "role" UserRole.decode
         verified := ← required ms "verified" flag
         createdAt := ← possible ms "created_at" instant
         updatedAt := ← possible ms "updated_at" instant }

/-- A user in stored form. -/
def stored (u : User) : StoredRecord := ⟨collection, u.id, u.encode⟩

end User

/-- A project. -/
structure Project where
  id : String
  name : String
  description : Option String
  ownerId : String
  createdAt : Option Instant
deriving DecidableEq

namespace Project

/-- Where projects are stored. -/
def collection : String := "projects"

/-- A new project without a description, created at the given time. -/
def create (now : Instant) (id name ownerId : String) : Project :=
  ⟨id, name, none, ownerId, some now⟩

/-- The project with another description. -/
def describe (p : Project) (text : String) : Project := { p with description := some text }

/-- A project as a document. -/
def encode (p : Project) : Json :=
  .obj [("id", .str p.id), ("name", .str p.name), ("description", .ofText? p.description),
    ("owner_id", .str p.ownerId), ("created_at", .ofInstant? p.createdAt)]

/-- The fields of a project. -/
def fields : List Field :=
  [field "id" text, field "name" text, field "description" (optional text),
    field "owner_id" text, field "created_at" (optional instant)]

/-- A project, from its document. -/
def decode : Decoder Project := fun j => do
  let ms ← members "Project" fields j
  pure { id := ← required ms "id" text
         name := ← required ms "name" text
         description := ← possible ms "description" text
         ownerId := ← required ms "owner_id" text
         createdAt := ← possible ms "created_at" instant }

/-- A project in stored form. -/
def stored (p : Project) : StoredRecord := ⟨collection, p.id, p.encode⟩

end Project

/-- What a member of a project may do. -/
inductive MemberRole where
  | owner
  | editor
  | viewer
deriving DecidableEq, Repr

/-- The name of a role. -/
def MemberRole.name : MemberRole → String
  | owner => "owner"
  | editor => "editor"
  | viewer => "viewer"

/-- The capitalised name of a role. -/
def MemberRole.title : MemberRole → String
  | owner => "Owner"
  | editor => "Editor"
  | viewer => "Viewer"

/-- A role, by its name. -/
def MemberRole.decode : Decoder MemberRole := choice [.owner, .editor, .viewer] MemberRole.name

/-- The membership of a user in a project. -/
structure ProjectMember where
  id : String
  projectId : String
  userId : String
  role : MemberRole
deriving DecidableEq

namespace ProjectMember

/-- Where memberships are stored. -/
def collection : String := "project_members"

/-- A membership as a document. -/
def encode (m : ProjectMember) : Json :=
  .obj [("id", .str m.id), ("project_id", .str m.projectId), ("user_id", .str m.userId),
    ("role", .str m.role.name)]

/-- The fields of a membership. -/
def fields : List Field :=
  [field "id" text, field "project_id" text, field "user_id" text,
    field "role" MemberRole.decode]

/-- A membership, from its document. -/
def decode : Decoder ProjectMember := fun j => do
  let ms ← members "ProjectMember" fields j
  pure { id := ← required ms "id" text
         projectId := ← required ms "project_id" text
         userId := ← required ms "user_id" text
         role := ← required ms "role" MemberRole.decode }

/-- A membership in stored form. -/
def stored (m : ProjectMember) : StoredRecord := ⟨collection, m.id, m.encode⟩

end ProjectMember

/-- How far a task has come. -/
inductive TaskStatus where
  | todo
  | inProgress
  | done
deriving DecidableEq, Repr

/-- The name of a status. -/
def TaskStatus.name : TaskStatus → String
  | todo => "todo"
  | inProgress => "in_progress"
  | done => "done"

/-- The capitalised name of a status. -/
def TaskStatus.title : TaskStatus → String
  | todo => "Todo"
  | inProgress => "InProgress"
  | done => "Done"

/-- A status, by its name. -/
def TaskStatus.decode : Decoder TaskStatus := choice [.todo, .inProgress, .done] TaskStatus.name

/-- A task of a project. -/
structure ProjectTask where
  id : String
  projectId : String
  title : String
  status : TaskStatus
  assigneeId : Option String
deriving DecidableEq

namespace ProjectTask

/-- Where tasks are stored. -/
def collection : String := "project_tasks"

/-- A task as a document. -/
def encode (t : ProjectTask) : Json :=
  .obj [("id", .str t.id), ("project_id", .str t.projectId), ("title", .str t.title),
    ("status", .str t.status.name), ("assignee_id", .ofText? t.assigneeId)]

/-- The fields of a task. -/
def fields : List Field :=
  [field "id" text, field "project_id" text, field "title" text,
    field "status" TaskStatus.decode, field "assignee_id" (optional text)]

/-- A task, from its document. -/
def decode : Decoder ProjectTask := fun j => do
  let ms ← members "ProjectTask" fields j
  pure { id := ← required ms "id" text
         projectId := ← required ms "project_id" text
         title := ← required ms "title" text
         status := ← required ms "status" TaskStatus.decode
         assigneeId := ← possible ms "assignee_id" text }

/-- A task in stored form. -/
def stored (t : ProjectTask) : StoredRecord := ⟨collection, t.id, t.encode⟩

end ProjectTask

end Record

end Storekeeper
