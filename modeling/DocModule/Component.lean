import DocModule.Text.Joined

namespace DocModule

structure Component where
  preamble : String := ""
  body : String := ""
  layout : Option String := none
  exportNames : List String := []
  skipExport : Bool := false

namespace Component

open Text

-- The name of a component that is not exported.
def contentBinding : String :=
  "TDXContent"

-- An empty expression is no layout.
def layoutExpression? (component : Component) : Option String :=
  component.layout.filter (· ≠ "")

def opening (component : Component) : String :=
  if component.preamble = "" then "" else component.preamble ++ "\n\n"

def declaration (skipExport : Bool) : String :=
  if skipExport then "const " ++ contentBinding ++ " = (props) => \x7b\n"
  else "export default (props) => \x7b\n"

def layoutProps (names : List String) : String :=
  if names = [] then "  const layoutProps = \x7b\x7d;\n"
  else "  const layoutProps = \x7b " ++ joined ", " names ++ " \x7d;\n"

-- The bindings at the start of the component and the blank line after them.
def bindings (component : Component) : String :=
  "  const layout = " ++ component.layoutExpression?.getD "null" ++ ";\n" ++
    "  const env = typeof useEnv === 'function' ? useEnv() : \x7b\x7d;\n" ++
    layoutProps component.exportNames ++ "\n"

-- The element that the component returns, which knows the layout if there is one.
def wrapper (component : Component) : String :=
  "  return <Md name=\"wrapper\" props=\x7b\x7b id: \"tdx\" \x7d\x7d" ++
    (if component.layoutExpression?.isSome then
      " Layout=\x7blayout\x7d layoutProps=\x7bObject.assign(\x7b\x7d, layoutProps, props)\x7d"
    else "") ++
    ">\n" ++
    (if component.body = "" then "" else component.body ++ "\n") ++
    "  </Md>;\n\x7d;\n"

def render (component : Component) : String :=
  component.opening ++ declaration component.skipExport ++ component.bindings ++ component.wrapper

end Component

end DocModule
