import ParamGrid.Yaml.Node.OfTree
import ParamGrid.Yaml.Token.Stream
import ParamGrid.Yaml.Tree.OfTokens

set_option autoImplicit false

namespace ParamGrid.Yaml

def blankNode : Node := .scalar ⟨"", true, none⟩

def read? (text : String) : Option Node := do
  let tokens ← tokens? text.toList
  match ← treeOfTokens? tokens with
  | none => some blankNode
  | some tree => nodeOfTree? tree

end ParamGrid.Yaml
