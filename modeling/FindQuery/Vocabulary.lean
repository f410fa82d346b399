import FindQuery.Filter.Tag
import FindQuery.Fields
import FindQuery.Value.Basic

namespace FindQuery.Vocabulary

/-- The operators of queries by family. Filter tokens use only a part of them. -/
def operatorFamilies : Fields (List String) :=
  [("comparison".toList, ["$eq", "$gt", "$gte", "$in", "$lt", "$lte", "$ne", "$nin"]),
    ("logical".toList, ["$and", "$not", "$nor", "$or"]),
    ("element".toList, ["$exists", "$type"]),
    ("evaluation".toList, ["$expr", "$mod", "$regex", "$text", "$where"]),
    ("geospatial".toList, ["$geoIntersects", "$geoWithin", "$near", "$nearSphere"]),
    ("array".toList, ["$all", "$elemMatch", "$size"]),
    ("comment".toList, ["$comment"])]

/-- Whether a text names a query operator of the vocabulary. -/
def isOperator (t : Text) : Bool :=
  operatorFamilies.any fun family => t ∈ family.2.map String.toList

def wordList (words : List String) : Value := .list (words.map fun w => .str w.toList)

def operatorTable : Value := .map (operatorFamilies.map fun family => (family.1, wordList family.2))

/-- The fields of the aggregation stages that have a fixed set of them. -/
def stageFields : Value :=
  .map
    [("$geoNear".toList,
      wordList ["spherical", "maxDistance", "query", "distanceMultiplier", "uniqueDocs", "near",
        "distanceField", "includeLocs", "minDistance"]),
    ("$lookup".toList,
      wordList ["from", "localField", "foreignField", "let", "pipeline", "as"]),
    ("$graphLookup".toList,
      wordList ["from", "startWith", "connectFromField", "connectToField", "as", "maxDepth",
        "depthField", "restrictSearchWithMatch"])]

def referenceTable : Value :=
  .map
    [("types".toList,
      wordList ["id", "string", "boolean", "integer", "float", "datetime", "date", "timestamp",
        "hash", "array", "subdocument", "subdocuments", "file", "MongoCode"]),
    ("array_types".toList,
      wordList ["id", "string", "boolean", "integer", "float", "datetime", "date", "timestamp"]),
    ("check_types".toList, wordList ["write", "create", "read"]),
    ("reference_types".toList, wordList ["referenceOne", "referenceMany"]),
    ("query_operators".toList, operatorTable),
    ("pack_types".toList, wordList ["create", "update", "insert", "delete", "undelete"]),
    ("update_operators".toList,
      wordList ["$set", "$unset", "$push", "$pullAll", "$pull", "$addToSet", "$inc"]),
    ("update_modifiers".toList, wordList ["$each"]),
    ("aggregate_stages".toList,
      wordList ["$facet", "$project", "$match", "$limit", "$skip", "$unwind", "$group", "$sort",
        "$geoNear", "$lookup", "$graphLookup", "$replaceRoot", "$addFields"]),
    ("aggregate_stage_fields".toList, stageFields)]

end FindQuery.Vocabulary
