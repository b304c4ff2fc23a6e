import HttpChain.Dict
import HttpChain.Json.Writer

/-!
# HttpChain.Variable.Context

The variables of a run: JSON values by name.
-/

namespace HttpChain

/-- JSON values by name. -/
abbrev Context := Dict Json

namespace Context

/-- The text of a variable. -/
def text? (ctx : Context) (name : String) : Option String := (ctx.get? name).map Json.text

end Context

end HttpChain
