import Storekeeper.Decode.Basic
import Storekeeper.Transaction.Options

/-!
# Names in documents

Environments, isolation levels and kinds of store errors are written in documents by their
names.
-/

namespace Storekeeper

/-- An environment, by its name. -/
def Environment.decode : Decoder Environment := Decode.choice all name

/-- An isolation level, by its name. -/
def IsolationLevel.decode : Decoder IsolationLevel := Decode.choice all name

/-- A kind of store error, by its name. -/
def StoreErrorKind.decode : Decoder StoreErrorKind := Decode.choice all name

end Storekeeper
