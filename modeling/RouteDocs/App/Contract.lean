import RouteDocs.App.Builtin

/-! The classes that an application builds its own on. -/

namespace RouteDocs.Contract

/-- The package of these classes. Their docstrings say nothing of the application. -/
def package : String := "openapi_autodoc"

def resources : String := package ++ ".app.resources"

def requests : String := package ++ ".app.requests"

def resourceName : ClassName := ⟨resources, "Resource"⟩

def collectionName : ClassName := ⟨resources, "ResourceCollection"⟩

def responseName : ClassName := ⟨resources, "JSONResponse"⟩

def redirectName : ClassName := ⟨resources, "RedirectResponse"⟩

def requestName : ClassName := ⟨requests, "FormRequest"⟩

def documentableName : ClassName := ⟨requests, "DocumentableRequest"⟩

def anyName : ClassName := ⟨"typing", "Any"⟩

def errorName : ClassName := Builtin.className "BaseException"

def root : Option ClassName := some (Builtin.className "object")

def resource : Class :=
  { name := resourceName, parent := root
    attributes := [("status_code", .int 200), ("wrap", .null)]
    constructor := some { parameters := [{ name := "resource", hint := some "Any" }] }
    model := some none
    methods :=
      [("to_dict", { returns := some "dict" }), ("to_response", { returns := some "JSONResponse" }),
       ("entity_type", { returns := some "type | None" })] }

def collection : Class :=
  { name := collectionName, parent := root
    attributes := [("status_code", .int 200), ("wrap", .null)]
    constructor := some { parameters := [{ name := "resources", hint := some "list[Any]" }] }
    collects := some none
    methods :=
      [("to_list", { returns := some "list" }),
       ("to_response", { returns := some "JSONResponse" })] }

def response : Class :=
  { name := responseName, parent := root
    attributes := [("status_code", .int 200)]
    constructor := some
      { parameters :=
          [{ name := "data", hint := some "Any", hasDefault := true },
           { name := "status_code", hint := some "int | None", hasDefault := true }] }
    methods := [("get_data", { returns := some "Any" })] }

def redirect : Class :=
  { name := redirectName, parent := root
    attributes := [("status_code", .int 302)]
    constructor := some
      { parameters := [{ name := "location", hint := some "str", hasDefault := true }] } }

def request : Class :=
  { name := requestName, parent := root, rules := some [] }

def documentable : Class :=
  { name := documentableName, parent := some requestName, queryRules := some []
    methods := [("body_rules", { returns := some "dict" })] }

def classes : List Class :=
  [documentable, request, collection, resource, redirect, response,
   { name := anyName, parent := root }]

end RouteDocs.Contract
