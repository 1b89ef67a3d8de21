/-!
# The grammar of rule documents

The reference that is handed to whoever writes rule documents, and shown on request.
-/

namespace UsageGrid.Rules

/-- The reference, line by line. -/
def grammarLines : List String := [
  "RULE DOCUMENT GRAMMAR (JSON):",
  "",
  "Cells are addressed zero-based as \x7b\"row\": R, \"col\": C\x7d.",
  "",
  "SOURCES (exactly one shape per object):",
  "  \x7b\"row\": 0, \"col\": 3\x7d                                   single cell",
  "  \x7b\"coord\": \x7b\"row\": 0, \"col\": 1\x7d, \"direction\": \"right\",",
  "   \"max_count\": 12\x7d                                      walk from coord;"
    ++ " max_count null/absent = to the edge",
  "  \x7b\"value\": \"Views\"\x7d                                     literal, ignores the grid",
  "  directions: \"left\" | \"right\" | \"up\" | \"down\"",
  "",
  "EXTRACT PARAMS (optional on every extractor):",
  "  \x7b\"regex\": \"...\", \"default\": ..., \"last_value_as_default\": false,",
  "   \"on_validation_error\": \"fail\" | \"skip\" | \"stop\" | \"pass\"\x7d",
  "  regex keeps the first capture group, or the whole match without groups.",
  "  On failure: default, then last value (if enabled), then the action.",
  "",
  "EXTRACTORS (\x7b\"source\", \"extract_params\", \"role\"\x7d):",
  "  metric        \x7b\"role\": \"metric\"\x7d",
  "  date          \x7b\"role\": \"date\", \"date_pattern\": \"%b-%y\"\x7d  or",
  "                \x7b\"role\": \"date\", \"composed\": \x7b\"year\": <date>, \"month\":"
    ++ " <date>\x7d\x7d",
  "  title         \x7b\"role\": \"title\"\x7d",
  "  title_id      \x7b\"role\": \"title_id\", \"name\": \"ISBN\" | \"Print_ISSN\" |"
    ++ " \"Online_ISSN\" |",
  "                                             \"Proprietary\" | \"DOI\" | \"URI\"\x7d",
  "  dimension     \x7b\"role\": \"dimension\", \"name\": \"Platform\"\x7d",
  "                names must not be organization, title, metric, date, value",
  "                or a title_id name",
  "  organization  \x7b\"role\": \"organization\"\x7d",
  "",
  "AREA:",
  "  \x7b\"data_headers\": \x7b",
  "      \"roles\": [<metric or date extractors read from the header cells>],",
  "      \"data_cells\": <range over the first value of each lane, one lane per cell>,",
  "      \"data_direction\": <direction in which each lane continues>\x7d,",
  "   \"metrics\": <metric>?, \"dates\": <date>?, \"titles\": <title>?,",
  "   \"title_ids\": [...], \"dimensions\": [...], \"organizations\": <organization>?,",
  "   \"kind\": \"non_counter.generic\"\x7d",
  "  metric and date must each come from exactly one place: a header role or",
  "  the area field. data_cells.direction must be perpendicular to",
  "  data_direction. A range running along data_direction is read per value;",
  "  any other range is read per header cell; cells and literals repeat.",
  "",
  "DOCUMENT:",
  "  \x7b\"parser_name\": \"...\", \"platforms\": [...],",
  "   \"metrics_to_skip\": [...], \"titles_to_skip\": [...],",
  "   \"available_metrics\": [...] | null, \"on_metric_check_failed\": \"skip\",",
  "   \"areas\": [<area>, ...],",
  "   \"metric_aliases\": [[\"from\", \"to\"], ...], \"dimension_aliases\": [...],",
  "   \"heuristics\": \x7b\"conds\": [], \"kind\": \"and\"\x7d,",
  "   \"data_format\": \x7b\"name\": \"format\"\x7d, \"kind\": \"non_counter.generic\"\x7d",
  "",
  "Dates are normalized to YYYY-MM-01. Blank value cells produce no record."]

/-- The reference as one text, which begins and ends with a line break. -/
def grammar : String := "\n" ++ String.join (grammarLines.map (· ++ "\n"))

end UsageGrid.Rules
