/-! # The built-in IBAN table -/
namespace FieldFormats.BuiltIn

def ibanFileName : String := "iban-formats.txt"

/-- Comments, then a row for each country: name, IBAN length, BBAN grammar, layout. -/
def ibanLines : List String :=
  [ "# IBAN formats per country.",
    "#",
    "# Columns (tab separated): country, total length, BBAN format, IBAN fields.",
    "# BBAN format tokens: <count>n digits, <count>a upper case letters, <count>c alphanumerics.",
    "# The IBAN fields column starts with the country code used as lookup key.",
    "Albania\t28\t8n,16c\tALkk nnnn nnnn cccc cccc cccc cccc",
    "Andorra\t24\t8n,12c\tADkk nnnn nnnn cccc cccc cccc",
    "Austria\t20\t16n\tATkk nnnn nnnn nnnn nnnn",
    "Azerbaijan\t28\t4a,20c\tAZkk aaaa cccc cccc cccc cccc cccc",
    "Bahrain\t22\t4a,14c\tBHkk aaaa cccc cccc cccc cc",
    "Belarus\t28\t4c,4n,16c\tBYkk cccc nnnn cccc cccc cccc cccc",
    "Belgium\t16\t12n\tBEkk nnnn nnnn nnnn",
    "Bosnia and Herzegovina\t20\t16n\tBAkk nnnn nnnn nnnn nnnn",
    "Brazil\t29\t23n,1a,1c\tBRkk nnnn nnnn nnnn nnnn nnnn nnna c",
    "Bulgaria\t22\t4a,6n,8c\tBGkk aaaa nnnn nncc cccc cc",
    "Costa Rica\t22\t18n\tCRkk nnnn nnnn nnnn nnnn nn",
    "Croatia\t21\t17n\tHRkk nnnn nnnn nnnn nnnn n",
    "Cyprus\t28\t8n,16c\tCYkk nnnn nnnn cccc cccc cccc cccc",
    "Czech Republic\t24\t20n\tCZkk nnnn nnnn nnnn nnnn nnnn",
    "Denmark\t18\t14n\tDKkk nnnn nnnn nnnn nn",
    "Dominican Republic\t28\t4c,20n\tDOkk cccc nnnn nnnn nnnn nnnn nnnn",
    "East Timor\t23\t19n\tTLkk nnnn nnnn nnnn nnnn nnn",
    "Egypt\t29\t25n\tEGkk nnnn nnnn nnnn nnnn nnnn nnnn n",
    "El Salvador\t28\t4a,20n\tSVkk aaaa nnnn nnnn nnnn nnnn nnnn",
    "Estonia\t20\t16n\tEEkk nnnn nnnn nnnn nnnn",
    "Faroe Islands\t18\t14n\tFOkk nnnn nnnn nnnn nn",
    "Finland\t18\t14n\tFIkk nnnn nnnn nnnn nn",
    "France\t27\t10n,11c,2n\tFRkk nnnn nnnn nncc cccc cccc cnn",
    "Georgia\t22\t2a,16n\tGEkk aann nnnn nnnn nnnn nn",
    "Germany\t22\t18n\tDEkk nnnn nnnn nnnn nnnn nn",
    "Gibraltar\t23\t4a,15c\tGIkk aaaa cccc cccc cccc ccc",
    "Greece\t27\t7n,16c\tGRkk nnnn nnnc cccc cccc cccc ccc",
    "Greenland\t18\t14n\tGLkk nnnn nnnn nnnn nn",
    "Guatemala\t28\t4c,20c\tGTkk cccc cccc cccc cccc cccc cccc",
    "Hungary\t28\t24n\tHUkk nnnn nnnn nnnn nnnn nnnn nnnn",
    "Iceland\t26\t22n\tISkk nnnn nnnn nnnn nnnn nnnn nn",
    "Iraq\t23\t4a,15n\tIQkk aaaa nnnn nnnn nnnn nnn",
    "Ireland\t22\t4a,14n\tIEkk aaaa nnnn nnnn nnnn nn",
    "Israel\t23\t19n\tILkk nnnn nnnn nnnn nnnn nnn",
    "Italy\t27\t1a,10n,12c\tITkk annn nnnn nnnc cccc cccc ccc",
    "Jordan\t30\t4a,4n,18c\tJOkk aaaa nnnn cccc cccc cccc cccc cc",
    "Kazakhstan\t20\t3n,13c\tKZkk nnnc cccc cccc cccc",
    "Kosovo\t20\t4n,10n,2n\tXKkk nnnn nnnn nnnn nnnn",
    "Kuwait\t30\t4a,22c\tKWkk aaaa cccc cccc cccc cccc cccc cc",
    "Latvia\t21\t4a,13c\tLVkk aaaa cccc cccc cccc c",
    "Lebanon\t28\t4n,20c\tLBkk nnnn cccc cccc cccc cccc cccc",
    "Libya\t25\t21n\tLYkk nnnn nnnn nnnn nnnn nnnn n",
    "Liechtenstein\t21\t5n,12c\tLIkk nnnn nccc cccc cccc c",
    "Lithuania\t20\t16n\tLTkk nnnn nnnn nnnn nnnn",
    "Luxembourg\t20\t3n,13c\tLUkk nnnc cccc cccc cccc",
    "North Macedonia\t19\t3n,10c,2n\tMKkk nnnc cccc cccc cnn",
    "Malta\t31\t4a,5n,18c\tMTkk aaaa nnnn nccc cccc cccc cccc ccc",
    "Mauritania\t27\t23n\tMRkk nnnn nnnn nnnn nnnn nnnn nnn",
    "Mauritius\t30\t4a,19n,3a\tMUkk aaaa nnnn nnnn nnnn nnnn nnna aa",
    "Moldova\t24\t2c,18c\tMDkk cccc cccc cccc cccc cccc",
    "Monaco\t27\t10n,11c,2n\tMCkk nnnn nnnn nncc cccc cccc cnn",
    "Montenegro\t22\t18n\tMEkk nnnn nnnn nnnn nnnn nn",
    "Netherlands\t18\t4a,10n\tNLkk aaaa nnnn nnnn nn",
    "Norway\t15\t11n\tNOkk nnnn nnnn nnn",
    "Pakistan\t24\t4a,16c\tPKkk aaaa cccc cccc cccc cccc",
    "Palestinian territories\t29\t4a,21c\tPSkk aaaa cccc cccc cccc cccc cccc c",
    "Poland\t28\t24n\tPLkk nnnn nnnn nnnn nnnn nnnn nnnn",
    "Portugal\t25\t21n\tPTkk nnnn nnnn nnnn nnnn nnnn n",
    "Qatar\t29\t4a,21c\tQAkk aaaa cccc cccc cccc cccc cccc c",
    "Romania\t24\t4a,16c\tROkk aaaa cccc cccc cccc cccc",
    "Saint Lucia\t32\t4a,24c\tLCkk aaaa cccc cccc cccc cccc cccc cccc",
    "San Marino\t27\t1a,10n,12c\tSMkk annn nnnn nnnc cccc cccc ccc",
    "Sao Tome and Principe\t25\t21n\tSTkk nnnn nnnn nnnn nnnn nnnn n",
    "Saudi Arabia\t24\t2n,18c\tSAkk nncc cccc cccc cccc cccc",
    "Serbia\t22\t18n\tRSkk nnnn nnnn nnnn nnnn nn",
    "Seychelles\t31\t4a,20n,3a\tSCkk aaaa nnnn nnnn nnnn nnnn nnnn aaa",
    "Slovakia\t24\t20n\tSKkk nnnn nnnn nnnn nnnn nnnn",
    "Slovenia\t19\t15n\tSIkk nnnn nnnn nnnn nnn",
    "Spain\t24\t20n\tESkk nnnn nnnn nnnn nnnn nnnn",
    "Sudan\t18\t14n\tSDkk nnnn nnnn nnnn nn",
    "Sweden\t24\t20n\tSEkk nnnn nnnn nnnn nnnn nnnn",
    "Switzerland\t21\t5n,12c\tCHkk nnnn nccc cccc cccc c",
    "Tunisia\t24\t20n\tTNkk nnnn nnnn nnnn nnnn nnnn",
    "Turkey\t26\t5n,1n,16c\tTRkk nnnn nncc cccc cccc cccc cc",
    "Ukraine\t29\t6n,19c\tUAkk nnnn nncc cccc cccc cccc cccc c",
    "United Arab Emirates\t23\t3n,16n\tAEkk nnnn nnnn nnnn nnnn nnn",
    "United Kingdom\t22\t4a,14n\tGBkk aaaa nnnn nnnn nnnn nn",
    "Vatican City\t22\t3n,15n\tVAkk nnnn nnnn nnnn nnnn nn",
    "Virgin Islands, British\t24\t4c,16n\tVGkk cccc nnnn nnnn nnnn nnnn" ]

/-- Every line ends in LF. -/
def ibanText : String :=
  String.join (ibanLines.map (· ++ "\n"))

end FieldFormats.BuiltIn
