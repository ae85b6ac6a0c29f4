/-!
# Helper functions

The functions that compiled predicates and updates call. They are installed in the database before
it is used, and can be installed again.
-/

namespace Docstore.Sql

structure HelperFunction where
  name : String
  parameters : String
  /-- The lines behind the one that names the function and its parameters. -/
  body : List String
deriving DecidableEq, Repr

namespace HelperFunction

/-- The parameters of the functions of two lists. -/
def listParameters : String := "\"array\" jsonb, \"values\" jsonb"

/-- The lines of a function of documents. -/
def jsonbLines (lines : List String) : List String :=
  ["RETURNS jsonb", "LANGUAGE sql", "IMMUTABLE", "STRICT", "AS $function$"] ++ lines

/-- The lines of a test. -/
def testLines (lines : List String) : List String :=
  ["RETURNS boolean", "LANGUAGE sql", "IMMUTABLE", "STRICT", "AS $function$"] ++ lines

def text (f : HelperFunction) : String :=
  "CREATE OR REPLACE FUNCTION \"" ++ f.name ++ "\"(" ++ f.parameters ++ ")\n" ++
    "\n".intercalate f.body ++ "\n$function$;\n"

/-- Sets a key of an object, or removes it. -/
def setKey : HelperFunction :=
  ⟨"json_object_set_key", "\"json\" jsonb, \"key_to_set\" text, \"value_to_set\" jsonb",
    ["RETURNS jsonb", "LANGUAGE sql", "IMMUTABLE", "AS $function$",
      "  SELECT (COALESCE(\"json\", '\x7b\x7d'::jsonb) - \"key_to_set\")",
      "    || CASE",
      "         WHEN \"value_to_set\" IS NULL THEN '\x7b\x7d'::jsonb",
      "         ELSE jsonb_build_object(\"key_to_set\", \"value_to_set\")",
      "       END;"]⟩

def add : HelperFunction :=
  ⟨"array_add", listParameters, jsonbLines ["  SELECT \"array\" || \"values\";"]⟩

/-- Adds what a list does not hold yet. -/
def addUnique : HelperFunction :=
  ⟨"array_add_unique", listParameters, jsonbLines
    ["  SELECT \"array\" || COALESCE(",
      "    (",
      "      SELECT jsonb_agg(elt ORDER BY first_position)",
      "      FROM (",
      "        SELECT elt, min(position) AS first_position",
      "        FROM jsonb_array_elements(\"values\") WITH ORDINALITY AS v(elt, position)",
      "        WHERE NOT \"array\" @> jsonb_build_array(elt)",
      "        GROUP BY elt",
      "      ) AS added",
      "    ),",
      "    '[]'::jsonb",
      "  );"]⟩

def remove : HelperFunction :=
  ⟨"array_remove", listParameters, jsonbLines
    ["  SELECT COALESCE(",
      "    (",
      "      SELECT jsonb_agg(elt ORDER BY position)",
      "      FROM jsonb_array_elements(\"array\") WITH ORDINALITY AS a(elt, position)",
      "      WHERE NOT \"values\" @> jsonb_build_array(elt)",
      "    ),",
      "    '[]'::jsonb",
      "  );"]⟩

/-- Whether a list holds one of some values. -/
def containsOne : HelperFunction :=
  ⟨"array_contains", listParameters, testLines
    ["  SELECT EXISTS (",
      "    SELECT 1",
      "    FROM jsonb_array_elements(\"array\") AS elt",
      "    WHERE elt IN (SELECT jsonb_array_elements(\"values\"))",
      "  );"]⟩

/-- Whether a list holds all of some values. -/
def containsAll : HelperFunction :=
  ⟨"array_contains_all", listParameters, testLines
    ["  SELECT CASE",
      "    WHEN jsonb_array_length(\"values\") = 0 THEN false",
      "    ELSE (",
      "      SELECT count(DISTINCT v) = (SELECT count(DISTINCT x) FROM jsonb_array_elements_text(\"values\") AS x)",
      "      FROM jsonb_array_elements_text(\"values\") AS v",
      "      WHERE v IN (SELECT jsonb_array_elements_text(\"array\"))",
      "    )",
      "  END;"]⟩

/-- Whether for each of some patterns a list holds a text that matches it. -/
def containsAllPatterns : HelperFunction :=
  ⟨"array_contains_all_regex", listParameters, testLines
    ["  SELECT CASE",
      "    WHEN jsonb_array_length(\"values\") = 0 THEN false",
      "    ELSE NOT EXISTS (",
      "      SELECT 1",
      "      FROM jsonb_array_elements_text(\"values\") AS pattern",
      "      WHERE NOT EXISTS (",
      "        SELECT 1",
      "        FROM jsonb_array_elements_text(\"array\") AS elt",
      "        WHERE elt LIKE pattern",
      "      )",
      "    )",
      "  END;"]⟩

/-- All of them, in the order in which they are installed. -/
def all : List HelperFunction :=
  [setKey, add, addUnique, remove, containsOne, containsAll, containsAllPatterns]

end HelperFunction

end Docstore.Sql
