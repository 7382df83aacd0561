import RouteDocs.Rule.Effect
import RouteDocs.Rule.Message

/-! All the rules: their names, what they need, what they say. -/

namespace RouteDocs

structure Rule where
  name : String
  arity : Nat
  effect : Rule.Effect
  wording : Rule.Wording
  template : Rule.Template
  deriving Repr

namespace Rule

def texts (s : String) : List String :=
  s.toList.map String.singleton

def letters : List String :=
  texts "abcdefghijklmnopqrstuvwxyzABCDEFGHIJKLMNOPQRSTUVWXYZ"

def digits : List String :=
  texts "0123456789"

def accepting : List Value :=
  [.text "yes", .text "on", .text "1", .int 1, .bool true, .text "true"]

def declining : List Value :=
  [.text "no", .text "off", .text "0", .int 0, .bool false, .text "false"]

/-- Identifiers of 26 characters in Crockford's base 32. -/
def ulid : Specimen :=
  .code "0?????????????????????????" "0123456789ABCDEFGHJKMNPQRSTVWXYZ"

def catalogue : List Rule :=
  [⟨"accepted", 0, .answers true accepting, .plain,
    .text "The :attribute must be accepted."⟩,
   ⟨"accepted_if", 2, .answers false accepting, .condition,
    .text "The :attribute must be accepted when :other is :value."⟩,
   ⟨"active_url", 0, .specimen (some "uri") .url, .plain,
    .text "The :attribute must be a valid URL."⟩,
   ⟨"after", 1, .nearDate 1, .first .date,
    .text "The :attribute must be a date after :date."⟩,
   ⟨"after_or_equal", 1, .nearDate 0, .first .date,
    .text "The :attribute must be a date after or equal to :date."⟩,
   ⟨"alpha", 0, .characters letters, .plain,
    .text "The :attribute must only contain letters."⟩,
   ⟨"alpha_dash", 0, .characters (letters ++ digits ++ ["_", "-"]), .plain,
    .text "The :attribute must only contain letters, numbers, dashes and underscores."⟩,
   ⟨"alpha_num", 0, .characters (letters ++ digits), .plain,
    .text "The :attribute must only contain letters and numbers."⟩,
   ⟨"array", 0, .type .array, .plain,
    .text "The :attribute must be an array."⟩,
   ⟨"ascii", 0, .textPattern "^[\\x00-\\x7F]*$", .plain,
    .text "The :attribute must only contain single-byte alphanumeric characters and symbols."⟩,
   ⟨"bail", 0, .nothing, .plain, .none⟩,
   ⟨"before", 1, .nearDate (-1), .first .date,
    .text "The :attribute must be a date before :date."⟩,
   ⟨"before_or_equal", 1, .nearDate 0, .first .date,
    .text "The :attribute must be a date before or equal to :date."⟩,
   ⟨"between", 2, .between, .between, .sized
      "The :attribute must be between :min and :max."
      "The :attribute must be between :min and :max kilobytes."
      "The :attribute must be between :min and :max characters."
      "The :attribute must have between :min and :max items."⟩,
   ⟨"boolean", 0, .truth, .plain,
    .text "The :attribute field must be true or false."⟩,
   ⟨"confirmed", 0, .nothing, .confirmation,
    .text "The :attribute confirmation does not match."⟩,
   ⟨"current_password", 0, .nothing, .plain,
    .text "The password is incorrect."⟩,
   ⟨"date", 0, .date, .plain,
    .text "The :attribute is not a valid date."⟩,
   ⟨"date_equals", 1, .nearDate 0, .first .date,
    .text "The :attribute must be a date equal to :date."⟩,
   ⟨"date_format", 1, .dateFormat, .first .format,
    .text "The :attribute does not match the format :format."⟩,
   ⟨"decimal", 1, .type .number, .decimal,
    .text "The :attribute must have :decimal decimal places."⟩,
   ⟨"declined", 0, .answers true declining, .plain,
    .text "The :attribute must be declined."⟩,
   ⟨"declined_if", 2, .answers false declining, .condition,
    .text "The :attribute must be declined when :other is :value."⟩,
   ⟨"different", 1, .nothing, .other,
    .text "The :attribute and :other must be different."⟩,
   ⟨"digits", 1, .digits, .first .digits,
    .text "The :attribute must be :digits digits."⟩,
   ⟨"digits_between", 2, .digitsBetween, .between,
    .text "The :attribute must be between :min and :max digits."⟩,
   ⟨"dimensions", 1, .nothing, .plain,
    .text "The :attribute has invalid image dimensions."⟩,
   ⟨"distinct", 0, .nothing, .plain,
    .text "The :attribute field has a duplicate value."⟩,
   ⟨"doesnt_end_with", 1, .nothing, .plain,
    .text "The :attribute may not end with one of the following: :values."⟩,
   ⟨"doesnt_start_with", 1, .nothing, .plain,
    .text "The :attribute may not start with one of the following: :values."⟩,
   ⟨"email", 0, .specimen (some "email") .email, .plain,
    .text "The :attribute must be a valid email address."⟩,
   ⟨"ends_with", 1, .endsWith, .plain,
    .text "The :attribute must end with one of the following: :values."⟩,
   ⟨"exclude", 0, .nothing, .plain, .none⟩,
   ⟨"exclude_if", 2, .nothing, .plain, .none⟩,
   ⟨"exclude_unless", 2, .nothing, .plain, .none⟩,
   ⟨"exists", 1, .nothing, .plain,
    .text "The selected :attribute is invalid."⟩,
   ⟨"extensions", 1, .extensions, .plain,
    .text "The :attribute must have one of the following extensions: :values."⟩,
   ⟨"file", 0, .type .file, .plain,
    .text "The :attribute must be a file."⟩,
   ⟨"filled", 0, .filled, .plain,
    .text "The :attribute field must have a value."⟩,
   ⟨"gt", 1, .lower true, .first .value, .sized
      "The :attribute must be greater than :value."
      "The :attribute must be greater than :value kilobytes."
      "The :attribute must be greater than :value characters."
      "The :attribute must have more than :value items."⟩,
   ⟨"gte", 1, .lower false, .first .value, .sized
      "The :attribute must be greater than or equal to :value."
      "The :attribute must be greater than or equal to :value kilobytes."
      "The :attribute must be greater than or equal to :value characters."
      "The :attribute must have :value items or more."⟩,
   ⟨"hex_color", 0, .specimen none .hexColor, .plain,
    .text "The :attribute must be a valid hexadecimal color."⟩,
   ⟨"image", 0, .image, .plain,
    .text "The :attribute must be an image."⟩,
   ⟨"in", 0, .oneOf, .plain,
    .text "The selected :attribute is invalid."⟩,
   ⟨"in_array", 1, .nothing, .other,
    .text "The :attribute field does not exist in :other."⟩,
   ⟨"integer", 0, .type .integer, .plain,
    .text "The :attribute must be an integer."⟩,
   ⟨"ip", 0, .specimen (some "ipv4") .ipv4, .plain,
    .text "The :attribute must be a valid IP address."⟩,
   ⟨"ipv4", 0, .specimen (some "ipv4") .ipv4, .plain,
    .text "The :attribute must be a valid IPv4 address."⟩,
   ⟨"ipv6", 0, .specimen (some "ipv6") .ipv6, .plain,
    .text "The :attribute must be a valid IPv6 address."⟩,
   ⟨"json", 0, .json, .plain,
    .text "The :attribute must be a valid JSON string."⟩,
   ⟨"lowercase", 0, .textPattern "^[^A-Z]*$", .plain,
    .text "The :attribute must be lowercase."⟩,
   ⟨"lt", 1, .upper true, .first .value, .sized
      "The :attribute must be less than :value."
      "The :attribute must be less than :value kilobytes."
      "The :attribute must be less than :value characters."
      "The :attribute must have less than :value items."⟩,
   ⟨"lte", 1, .upper false, .first .value, .sized
      "The :attribute must be less than or equal to :value."
      "The :attribute must be less than or equal to :value kilobytes."
      "The :attribute must be less than or equal to :value characters."
      "The :attribute must not have more than :value items."⟩,
   ⟨"mac_address", 0, .specimen none .macAddress, .plain,
    .text "The :attribute must be a valid MAC address."⟩,
   ⟨"max", 1, .upper false, .first .max, .sized
      "The :attribute must not be greater than :max."
      "The :attribute must not be greater than :max kilobytes."
      "The :attribute must not be greater than :max characters."
      "The :attribute must not have more than :max items."⟩,
   ⟨"max_digits", 1, .maxDigits, .first .max,
    .text "The :attribute must not have more than :max digits."⟩,
   ⟨"mimes", 1, .extensions, .plain,
    .text "The :attribute must be a file of type: :values."⟩,
   ⟨"mimetypes", 1, .nothing, .plain,
    .text "The :attribute must be a file of type: :values."⟩,
   ⟨"min", 1, .lower false, .first .min, .sized
      "The :attribute must be at least :min."
      "The :attribute must be at least :min kilobytes."
      "The :attribute must be at least :min characters."
      "The :attribute must have at least :min items."⟩,
   ⟨"min_digits", 1, .minDigits, .first .min,
    .text "The :attribute must have at least :min digits."⟩,
   ⟨"multiple_of", 1, .multiple, .first .value,
    .text "The :attribute must be a multiple of :value."⟩,
   ⟨"not_in", 1, .nothing, .plain,
    .text "The selected :attribute is invalid."⟩,
   ⟨"not_regex", 1, .otherPattern, .plain,
    .text "The :attribute format is invalid."⟩,
   ⟨"nullable", 0, .nullable, .plain, .none⟩,
   ⟨"numeric", 0, .type .number, .plain,
    .text "The :attribute must be a number."⟩,
   ⟨"password", 0, .nothing, .plain,
    .text "The password is incorrect."⟩,
   ⟨"present", 0, .required, .plain,
    .text "The :attribute field must be present."⟩,
   ⟨"prohibited", 0, .nothing, .plain,
    .text "The :attribute field is prohibited."⟩,
   ⟨"prohibited_if", 2, .nothing, .condition,
    .text "The :attribute field is prohibited when :other is :value."⟩,
   ⟨"prohibited_unless", 2, .nothing, .exception,
    .text "The :attribute field is prohibited unless :other is in :values."⟩,
   ⟨"prohibits", 1, .nothing, .other,
    .text "The :attribute field prohibits :other from being present."⟩,
   ⟨"regex", 1, .pattern, .plain,
    .text "The :attribute format is invalid."⟩,
   ⟨"required", 0, .required, .plain,
    .text "The :attribute field is required."⟩,
   ⟨"required_if", 2, .required, .condition,
    .text "The :attribute field is required when :other is :value."⟩,
   ⟨"required_unless", 2, .required, .exception,
    .text "The :attribute field is required unless :other is in :values."⟩,
   ⟨"required_with", 1, .required, .others,
    .text "The :attribute field is required when :values is present."⟩,
   ⟨"required_with_all", 1, .required, .others,
    .text "The :attribute field is required when :values are present."⟩,
   ⟨"required_without", 1, .required, .others,
    .text "The :attribute field is required when :values is not present."⟩,
   ⟨"required_without_all", 1, .required, .others,
    .text "The :attribute field is required when none of :values are present."⟩,
   ⟨"same", 1, .nothing, .other,
    .text "The :attribute and :other must match."⟩,
   ⟨"size", 1, .size, .first .size, .sized
      "The :attribute must be :size."
      "The :attribute must be :size kilobytes."
      "The :attribute must be :size characters."
      "The :attribute must contain :size items."⟩,
   ⟨"sometimes", 0, .nothing, .plain, .none⟩,
   ⟨"starts_with", 1, .startsWith, .plain,
    .text "The :attribute must start with one of the following: :values."⟩,
   ⟨"string", 0, .type .string, .plain,
    .text "The :attribute must be a string."⟩,
   ⟨"timezone", 0, .specimen none .timezone, .plain,
    .text "The :attribute must be a valid timezone."⟩,
   ⟨"ulid", 0, .specimen none ulid, .plain,
    .text "The :attribute must be a valid ULID."⟩,
   ⟨"unique", 1, .nothing, .plain,
    .text "The :attribute has already been taken."⟩,
   ⟨"uppercase", 0, .textPattern "^[^a-z]*$", .plain,
    .text "The :attribute must be uppercase."⟩,
   ⟨"url", 0, .specimen (some "uri") .url, .plain,
    .text "The :attribute must be a valid URL."⟩,
   ⟨"uuid", 0, .specimen (some "uuid") .uuid, .plain,
    .text "The :attribute must be a valid UUID."⟩]

def find? (name : String) : Option Rule :=
  catalogue.find? fun rule => rule.name == name

/-- The sentence that describes a rule. A template of the application comes before
the rule's own. -/
def sentence? (overrides : Overrides) (field name : String) (parameters : List String)
    (type : Option FieldType) : Option String :=
  let rule := find? name
  let template := (overrides.find? field name).or
    (rule.bind fun rule => rule.template.select? type)
  let wording : Wording := (rule.map Rule.wording).getD .plain
  template.map (wording.fill field parameters)

end Rule
end RouteDocs
