import Recast.Template.Java
import Recast.Template.Python
import Recast.Template.Ruby
import Recast.Template.Rust
import Recast.Template.TypeScript

/-!
# The template of each language
-/

namespace Recast

def Language.template : Language → Template
  | java => .java
  | ruby => .ruby
  | python => .python
  | typescript => .typescript
  | rust => .rust

/-- The text of a class in a language. -/
def Language.render (language : Language) (view : ClassView) : String :=
  language.template.render language.conventions.hasAccessors view

end Recast
