import SchemaGen.Entity.Grouping

namespace SchemaGen.Entity

/-- The imports. The type `Json` always comes from the module that declares the types. -/
def importSection (typeImports : List String) (path : String) : String :=
  "import \x7b z \x7d from \"zod\";\nimport type \x7b " ++
    ", ".intercalate ("Json" :: typeImports) ++ " \x7d from \"" ++ path ++ "\";"

def Block.alias (b : Block) : String :=
  "export type " ++ b.name ++ " = z.infer<typeof " ++ b.identifier ++ ">;"

def Catalog.inferred (c : Catalog) : List Block := c.blocks.filter (!c.typeImports.contains ·.name)

/-- The members of a group that have a suffix, with it. -/
def Group.keyed (g : Group) : List (String × Member) :=
  g.members.filterMap fun m => m.suffix.map fun s => (s, m)

def Group.typeSection (g : Group) : String :=
  "export type " ++ g.entity ++ " = \x7b\n" ++
    String.join (g.keyed.map fun (key, m) => "  " ++ key ++ ": " ++ m.name ++ ";\n") ++ "\x7d;"

def Group.objectSection (naming : Naming) (g : Group) : String :=
  "export const " ++ naming.aggregateName g.entity ++ " = \x7b\n" ++
    String.join (g.keyed.map fun (key, m) => "  " ++ key ++ ": " ++ m.identifier ++ ",\n") ++
    "\x7d;"

def Catalog.pairs (c : Catalog) : List Group := c.groups.filter (·.hasPair)

/-- The sections of a module; the types come from the module at the given path. -/
def Catalog.sections (c : Catalog) (naming : Naming) (path : String) : List String :=
  [importSection c.typeImports path] ++
    (c.json.toList ++ c.blocks).map (·.text) ++
    (if c.inferred.isEmpty then [] else ["\n".intercalate (c.inferred.map Block.alias)]) ++
    c.pairs.flatMap fun g => [g.typeSection, g.objectSection naming]

def Catalog.render (c : Catalog) (naming : Naming) (path : String) : String :=
  "\n\n".intercalate (c.sections naming path) ++ "\n"

end SchemaGen.Entity
